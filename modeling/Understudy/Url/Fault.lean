/-!
# Why a text is no URL
-/

namespace Understudy

namespace Url

inductive Fault where
  /-- there is no scheme -/
  | relative
  | emptyHost
  | port
  | address4
  | address6
  | domain
  deriving DecidableEq

def Fault.message : Fault → String
  | .relative => "relative URL without a base"
  | .emptyHost => "empty host"
  | .port => "invalid port number"
  | .address4 => "invalid IPv4 address"
  | .address6 => "invalid IPv6 address"
  | .domain => "<invalid domain>"

end Url

end Understudy
