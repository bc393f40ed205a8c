import ConfigFanout.Error

-- Addresses of requests. Names go into an address as they are, so a name can make a text
-- that is no address.
namespace ConfigFanout.Api

/-- The characters that may stand in the path of an address. -/
def isPathChar (c : Char) : Bool :=
  0x20 < c.toNat && c.toNat ≠ 0x7f &&
    c ≠ '<' && c ≠ '>' && c ≠ '\x60' && c ≠ '#' && c ≠ '?'

/-- The characters that may stand in the query of an address. -/
def isQueryChar (c : Char) : Bool :=
  0x20 < c.toNat && c.toNat ≠ 0x7f && c ≠ '"' && c ≠ '<' && c ≠ '>' && c ≠ '#'

/-- The most bytes that the text of an address may have. -/
def greatestAddress : Nat := 65534

/-- The address that a text is: a path, and a query after a question mark. What follows a
number sign is not sent. -/
def readAddress (text : String) : Except AddressFault String :=
  let sent := text.toList.takeWhile (· ≠ '#')
  let path := sent.takeWhile (· ≠ '?')
  let query := (sent.dropWhile (· ≠ '?')).drop 1
  if greatestAddress < text.utf8ByteSize then .error .tooLong
  else if path.all isPathChar && query.all isQueryChar then .ok (String.ofList sent)
  else .error .badCharacter

end ConfigFanout.Api
