namespace RemoteCall

/-- Why a text is no location of an endpoint. -/
inductive Http.UrlError where
  | noScheme
  | unsupportedScheme (scheme : String)
  | emptyHost
  | invalidDomain
  | invalidHostCharacter
  | invalidV4
  | invalidV6
  | invalidPort

def Http.UrlError.message : Http.UrlError → String
  | .noScheme => "relative URL without a base"
  | .unsupportedScheme scheme => "unsupported scheme: " ++ scheme
  | .emptyHost => "empty host"
  | .invalidDomain => "invalid international domain name"
  | .invalidHostCharacter => "invalid domain character"
  | .invalidV4 => "invalid IPv4 address"
  | .invalidV6 => "invalid IPv6 address"
  | .invalidPort => "invalid port number"

end RemoteCall
