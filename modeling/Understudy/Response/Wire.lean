import Understudy.Response.Basic

/-!
# Responses on the wire

HTTP allows certain header names and values only. `Message.wire` is what goes out: the message when all of its parts
are legal, and a bare failure otherwise.
-/

namespace Understudy

namespace Response

def isTokenChar (c : Char) : Bool := c.isAlphanum || "!#$%&'*+-.^_\x60|~".toList.contains c

def isToken (s : String) : Bool := !s.isEmpty && s.toList.all isTokenChar

/-- A header value that HTTP allows: no control characters except tabs. -/
def isLegalValue (value : Bytes) : Bool :=
  value.toList.all fun b => b == 9 || (32 ≤ b && b != 127)

structure Wire where
  status : Nat
  /-- names in small letters -/
  headers : List (String × Bytes)
  body : Bytes
  deriving Inhabited

def isLegalStatus (status : Nat) : Bool := 100 ≤ status && status < 1000

/-- The failure that is sent for a message with illegal parts. -/
def Wire.illegal : Wire :=
  { status := 500, headers := [], body := Bytes.ofText "Invalid response headers" }

def Message.allHeaders (m : Message) : List (String × Bytes) :=
  m.headers.map (fun (n, v) => (n, Bytes.ofText v)) ++ m.binaryHeaders

/-- What goes out for a message; an illegal status is sent as 500. -/
def Message.wire (m : Message) : Wire :=
  let headers := m.allHeaders
  if headers.all fun (n, v) => isToken n && isLegalValue v then
    { status := if isLegalStatus m.status then m.status else 500
      headers := headers.map fun (n, v) => (Text.lower n, v)
      body := m.body }
  else .illegal

end Response

end Understudy
