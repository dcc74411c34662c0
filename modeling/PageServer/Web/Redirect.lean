import PageServer.Text.Quoted

/-! Addresses to redirect to, percent-encoded. -/

namespace PageServer.Web

/-- Characters that stand for themselves in an address. -/
def isPlain (byte : UInt8) : Bool :=
  let c := Char.ofNat byte.toNat
  byte.toNat < 0x80 && (c.isAlphanum || "_.-~:/%#?=@[]!$&'()*+,;".toList.contains c)

/-- A byte in an address. -/
def addressByte (byte : UInt8) : List Char :=
  if isPlain byte then [Char.ofNat byte.toNat]
  else '%' :: (Text.hexPadded 2 byte.toNat).map Char.toUpper

/-- A text as part of an address. -/
def address (text : String) : String :=
  String.ofList (text.toUTF8.toList.flatMap addressByte)

end PageServer.Web
