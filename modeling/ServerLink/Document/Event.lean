import ServerLink.Url.Basic

namespace ServerLink.Document

inductive Deed where
  | opened (text : String)
  | changed (text : String)
  | saved
  | closed
  deriving DecidableEq, Repr

structure Event where
  url : Url
  language : String
  deed : Deed
  deriving Repr

end ServerLink.Document
