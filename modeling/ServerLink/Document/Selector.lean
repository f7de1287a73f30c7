import ServerLink.Json.Basic
import ServerLink.Product
import ServerLink.Url.Basic

namespace ServerLink.Document

structure Selector where
  scheme : String := "file"
  language : String := Product.language
  deriving DecidableEq, Repr, Inhabited

namespace Selector

def covers (s : Selector) (url : Url) (language : String) : Bool :=
  String.ofList url.scheme == s.scheme && language == s.language

def toJson (s : Selector) : Json :=
  .array [.ofFields [("language", .string s.language), ("scheme", .string s.scheme)]]

end Selector

end ServerLink.Document
