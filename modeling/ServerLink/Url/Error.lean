namespace ServerLink

inductive UrlError where
  | noScheme
  | emptyHost
  | malformedDomain
  | forbiddenCharacter
  | malformedPort
  | malformedIpv4
  | malformedIpv6
  deriving DecidableEq, Repr

def UrlError.message : UrlError → String
  | .noScheme => "relative URL without a base"
  | .emptyHost => "empty host"
  | .malformedDomain => "invalid international domain name"
  | .forbiddenCharacter => "invalid domain character"
  | .malformedPort => "invalid port number"
  | .malformedIpv4 => "invalid IPv4 address"
  | .malformedIpv6 => "invalid IPv6 address"

end ServerLink
