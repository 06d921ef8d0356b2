import IniKeeper.Unicode.Composed
import IniKeeper.Web.Domain.Label
import IniKeeper.Web.Domain.WritingOrder

/-!
# Domains

The name of a domain is labels with full stops between them. A name is read by mapping and composing
its characters; then it must have no character that means something else in an address, each label
must be valid, and the order of writing clear.
-/

namespace IniKeeper

namespace Web

namespace Domain

/-- The ASCII characters that no domain may have: controls, the space, and those that mean something
else in an address. -/
def isForbidden (c : Char) : Bool :=
  c.toNat ≤ 0x20 || c.toNat == 0x7f || "%#/:<>?@[\\]^|".toList.contains c

/-- The labels of a name, unless the name is not valid. -/
def labels? (name : Text) : Option (List Text) := do
  let plain := Unicode.composed (← Mapping.text? name)
  if plain.any isForbidden then none
  else
    let labels ← (plain.splitOn '.').mapM Label.read?
    if WritingOrder.isClear labels then some labels else none

/-- The domain that a name stands for, with its labels decoded. -/
def read? (name : Text) : Option Text := (labels? name).map ['.'].intercalate

end Domain

end Web

end IniKeeper
