import CachePolicy.Text.Digits

/-!
# Network addresses

The written forms of network addresses: four octets with points between them, or eight
groups of hexadecimal digits with colons between them, where one run of zero groups may be
left out and the last two groups may be written as four octets.
-/

namespace CachePolicy

namespace NetworkAddress

/-- A number of at most three digits below 256, without zeros in front. -/
def isOctet (cs : List Char) : Bool :=
  cs.length ≤ 3 && (cs = ['0'] || cs.head? ≠ some '0') &&
    match readNat? cs with
    | some n => n < 256
    | none => false

def isPointed (cs : List Char) : Bool :=
  let octets := cs.splitOn '.'
  octets.length = 4 && octets.all isOctet

/-! ## Groups between colons -/

def groupCount : Nat := 8

def isGroup (cs : List Char) : Bool :=
  !cs.isEmpty && cs.length ≤ 4 && cs.all fun c => (hexDigitValue? c).isSome

/-- The groups of an address whose last part is replaced by two groups if it is written as four
octets; there are none if that part is malformed. -/
def groups? (cs : List Char) : Option (List (List Char)) :=
  let parts := cs.splitOn ':'
  let last := parts.getLast?.getD []
  if parts.length < 3 then none
  else if last.contains '.' then
    if isPointed last then some (parts.dropLast ++ [['0'], ['0']]) else none
  else some parts

/-- The groups in front of the run that is left out, or behind it, read outwards from there: an
empty one stands for nothing if it is the only one. -/
def outerGroups (groups : List (List Char)) : List (List Char) :=
  if groups = [[]] then [] else groups

/-- The positions of empty parts that are neither the first nor the last. -/
def omissions (groups : List (List Char)) : List Nat :=
  (groups.zipIdx.filter fun (group, position) =>
    group.isEmpty && 0 < position && position + 1 < groups.length).map (·.2)

def isGrouped (groups : List (List Char)) : Bool :=
  match omissions groups with
  | [] => groups.length = groupCount && groups.all isGroup
  | [position] =>
      let written := outerGroups (groups.take position) ++ outerGroups (groups.drop (position + 1))
      written.length < groupCount && written.all isGroup
  | _ => false

/-- A zone may be named behind a percent sign. -/
def isColoned (cs : List Char) : Bool :=
  let zone := (cs.dropWhile (· ≠ '%')).drop 1
  (!cs.contains '%' || (!zone.isEmpty && !zone.contains '%')) &&
    match groups? (cs.takeWhile (· ≠ '%')) with
    | some groups => isGrouped groups
    | none => false

end NetworkAddress

end CachePolicy
