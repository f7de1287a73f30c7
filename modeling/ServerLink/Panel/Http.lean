import ServerLink.Panel.Message
import ServerLink.Product
import ServerLink.Url.Basic

namespace ServerLink.Panel

structure HttpRequest where
  method : String
  url : Url
  contentType : Option String
  body : String
  deriving Repr

/-- The type of the body of a form, as browsers give it for plain text. -/
def formContentType : String := "text/plain;charset=UTF-8"

def webUrl? (address : String) : Option Url :=
  (Url.parse address).toOption.filter fun u =>
    (u.scheme == "http".toList || u.scheme == "https".toList) && u.authority.isSome

def Request.http? : Request → Option HttpRequest
  | .get address => (webUrl? address).map fun url => ⟨"GET", url, none, ""⟩
  | .post address body => (webUrl? address).map fun url => ⟨"POST", url, some formContentType, body⟩

def HttpRequest.target (r : HttpRequest) : String :=
  String.ofList (r.url.path ++ Url.writePart '?' r.url.query)

end ServerLink.Panel
