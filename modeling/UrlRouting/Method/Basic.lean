/-!
# Request-method masks

A `Method` is a bit mask of request methods. The seven concrete methods take the low bits,
GET, POST, PUT, DELETE, HEAD, PATCH and OPTIONS in this order, and the wildcard ANY takes bit
31 on its own, so that "any method" is neither the empty mask nor the union of all
concrete methods. A mask may carry other bits too; validation refuses them.

* A mask includes a method when the method is not empty and either the mask carries the
  wildcard or the two share a concrete bit.
* A mask is specific when it carries no wildcard and is exactly one concrete method.
* The concrete methods of a mask are all seven for the wildcard, and its concrete bits in
  declaration order otherwise.

## Main definitions

* `UrlRouting.Method`, `UrlRouting.Method.concrete`, `UrlRouting.Method.any`
* `UrlRouting.Method.isAny`, `UrlRouting.Method.isSpecific`,
  `UrlRouting.Method.concreteNames`, `UrlRouting.Method.includes`
* `UrlRouting.Method.repr`: the written form `<HTTPMethod.GET|PUT: 5>`.
-/

namespace UrlRouting

/-- A bit mask of request methods. -/
structure Method where
  /-- The bits of the mask. -/
  bits : Nat
  deriving DecidableEq, Repr, Inhabited

namespace Method

/-- The concrete methods with their bits, in declaration order. -/
def concrete : List (String × Nat) :=
  [("GET", 1), ("POST", 2), ("PUT", 4), ("DELETE", 8), ("HEAD", 16), ("PATCH", 32),
    ("OPTIONS", 64)]

/-- The bit of the wildcard, bit 31. -/
def anyBit : Nat := 2147483648

/-- The bits of all concrete methods. -/
def concreteBits : Nat := 127

/-- The bits a valid mask may carry: the concrete bits and the wildcard. -/
def knownBits : Nat := concreteBits ||| anyBit

/-- Every name a mask can be written with, with its bits: the concrete methods, then ANY. -/
def members : List (String × Nat) := concrete ++ [("ANY", anyBit)]

/-- The wildcard mask. -/
def any : Method := ⟨anyBit⟩

/-- The mask of GET alone. -/
def get : Method := ⟨1⟩

/-- Whether the mask carries the wildcard. -/
def isAny (m : Method) : Bool := m.bits &&& anyBit != 0

/-- Whether the mask is exactly one concrete method and carries no wildcard. -/
def isSpecific (m : Method) : Bool :=
  !m.isAny && concrete.any fun p => p.2 == m.bits

/-- The concrete methods of the mask by name: all of them for the wildcard. -/
def concreteNames (m : Method) : List String :=
  if m.isAny then concrete.map (·.1)
  else (concrete.filter fun p => m.bits &&& p.2 != 0).map (·.1)

/-- The text of a mask: `ANY` for the wildcard, and otherwise its concrete names joined by
`|`. -/
def text (m : Method) : String :=
  if m.isAny then "ANY" else "|".intercalate m.concreteNames

/-- Whether the mask includes the method `k`: never an empty `k`, always under the wildcard,
and otherwise when they share a concrete bit. -/
def includes (m k : Method) : Bool :=
  if k.bits = 0 then false
  else if m.isAny then true
  else m.bits &&& k.bits &&& concreteBits != 0

/-- The names in the written form of a mask: its members in declaration order, then the
value of any bits outside them. A mask with no member has no name at all, whatever other bits
it carries. -/
def shownNames (m : Method) : List String :=
  let named := (members.filter fun p => m.bits &&& p.2 != 0).map (·.1)
  let rest := m.bits - (m.bits &&& knownBits)
  if named = [] ∨ rest = 0 then named else named ++ [String.ofList (Nat.toDigits 10 rest)]

/-- The written form of a mask, such as `<HTTPMethod.GET|PUT: 5>`, `<HTTPMethod.GET|128: 129>`,
or `<HTTPMethod: 0>` and `<HTTPMethod: 128>` for a mask with no member. -/
def repr (m : Method) : String :=
  let bits := String.ofList (Nat.toDigits 10 m.bits)
  match m.shownNames with
  | [] => "<HTTPMethod: " ++ bits ++ ">"
  | names => "<HTTPMethod." ++ "|".intercalate names ++ ": " ++ bits ++ ">"

end Method

end UrlRouting
