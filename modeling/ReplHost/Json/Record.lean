import ReplHost.Json.Reader

/-! # Reading typed values and records

  A configuration file is a JSON object whose members fill the fields of a
  record. This module reads one value of an expected type: a string, a
  boolean, an unsigned integer with an upper bound, `null` or a value, a list
  of strings, a string map, and a record.

  A value of another type is reported with what was found (`invalidType`);
  to say what it is, the reader reads it first, so a syntax fault inside it
  wins. An integer of the right kind but out of range is `invalidValue`.

  A record may be written as an object, whose members name the fields, or as
  an array, whose elements fill the fields in order. Absent fields keep
  their defaults; unknown members are read and ignored; a field named twice
  is refused, and that fault is placed at the end of the object when the
  closing brace follows right away.
-/

namespace ReplHost.Json

variable {α : Type}

/-- The letters after the first of `null`, `true` and `false`. -/
def restOfNull : List UInt8 := [0x75, 0x6C, 0x6C]
/-- See `restOfNull`. -/
def restOfTrue : List UInt8 := [0x72, 0x75, 0x65]
/-- See `restOfNull`. -/
def restOfFalse : List UInt8 := [0x61, 0x6C, 0x73, 0x65]

/-- Refuses the value in front, which is not of the `expected` type. -/
def invalidType (expected : String) : Reader α := do
  let found ← (do
    match ← peek? with
    | some 0x6E => do bump; expectWord restOfNull; pure Found.null
    | some 0x74 => do bump; expectWord restOfTrue; pure (Found.bool true)
    | some 0x66 => do bump; expectWord restOfFalse; pure (Found.bool false)
    | some 0x2D => do bump; let n ← number false; pure n.found
    | some 0x22 => do bump; let s ← string; pure (Found.string s)
    | some 0x5B => pure Found.sequence
    | some 0x7B => pure Found.map
    | some b => if isDigit b then do let n ← number true; pure n.found else failAhead .expectedValue
    | none => failAhead .expectedValue : Reader Found)
  fail (.invalidType found expected)

/-- Reads a string; `expected` names the type in a fault. -/
def readString (expected : String) : Reader String := do
  match ← skipBlanks with
  | none => failAhead .eofValue
  | some 0x22 => do bump; string
  | some _ => invalidType expected

/-- Reads a boolean. -/
def readBool : Reader Bool := do
  match ← skipBlanks with
  | none => failAhead .eofValue
  | some 0x74 => do bump; expectWord restOfTrue; pure true
  | some 0x66 => do bump; expectWord restOfFalse; pure false
  | some _ => invalidType "a boolean"

/-- Reads an integer in `0 .. bound`; `expected` names the type. -/
def readUnsigned (bound : Nat) (expected : String) : Reader Nat := do
  let n ← (do
    match ← skipBlanks with
    | none => failAhead .eofValue
    | some 0x2D => do bump; number false
    | some b => if isDigit b then number true else invalidType expected : Reader Number)
  match n with
  | .unsigned v => if v ≤ bound then pure v else fail (.invalidValue (.unsigned v) expected)
  | .negative i => fail (.invalidValue (.signed i) expected)
  | .float x => fail (.invalidType (.float x) expected)

/-- Reads `null` as `none`, or else a value. -/
def readOptional (r : Reader α) : Reader (Option α) := do
  match ← skipBlanks with
  | some 0x6E => do bump; expectWord restOfNull; pure none
  | _ => some <$> r

/-- Whether another element follows in an array; `first` tells whether
    none was read yet. -/
def moreElements (first : Bool) : Reader Bool := do
  match ← skipBlanks with
  | some 0x5D => pure false
  | some 0x2C =>
    if first then pure true
    else do
      bump
      match ← skipBlanks with
      | some 0x5D => failAhead .trailingComma
      | some _ => pure true
      | none => failAhead .eofValue
  | some _ => if first then pure true else failAhead .expectedListCommaOrEnd
  | none => failAhead .eofList

/-- Closes an array once its elements are read. -/
def closeArray : Reader Unit := do
  match ← skipBlanks with
  | some 0x5D => bump
  | some 0x2C => do
    bump
    match ← skipBlanks with
    | some 0x5D => failAhead .trailingComma
    | _ => failAhead .trailingCharacters
  | some _ => failAhead .trailingCharacters
  | none => failAhead .eofList

/-- The key of the next object member, if any; `first` tells whether none
    was read yet. -/
def nextKey (first : Bool) : Reader (Option String) := do
  let b? ← (do
    match ← skipBlanks with
    | some 0x7D => pure none
    | some 0x2C =>
      if first then failAhead .keyMustBeString
      else do bump; some <$> skipBlanks
    | some b => if first then pure (some (some b)) else failAhead .expectedObjectCommaOrEnd
    | none => failAhead .eofObject : Reader (Option (Option UInt8)))
  match b? with
  | none => pure none
  | some (some 0x22) => do bump; some <$> string
  | some (some 0x7D) => failAhead .trailingComma
  | some (some _) => failAhead .keyMustBeString
  | some none => failAhead .eofValue

/-- Reads the colon after a member's key. -/
def memberColon : Reader Unit := do
  match ← skipBlanks with
  | some 0x3A => bump
  | some _ => failAhead .expectedColon
  | none => failAhead .eofObject

/-- Closes an object once its members are read. -/
def closeObject : Reader Unit := do
  match ← skipBlanks with
  | some 0x7D => bump
  | some 0x2C => failAhead .trailingComma
  | some _ => failAhead .trailingCharacters
  | none => failAhead .eofObject

/-- Reads elements with `r` up to the end of an array; `acc` holds those
    read, last first. -/
def elements (r : Reader α) (first : Bool) (acc : List α) : Nat → Reader (List α)
  | 0 => failAhead .eofList
  | fuel + 1 => do
    if ← moreElements first then
      let a ← r
      elements r false (a :: acc) fuel
    else pure acc.reverse

/-- Reads a list of strings. -/
def readStrings : Reader (List String) := do
  match ← skipBlanks with
  | none => failAhead .eofValue
  | some 0x5B => do
    bump
    let xs ← elements (readString "a string") true [] ((← get).rest.length + 1)
    closeArray
    pure xs
  | some _ => invalidType "a sequence"

/-- Sets `k` to `v` in an association list, in place when `k` is present. -/
def assocSet (k v : String) : List (String × String) → List (String × String)
  | [] => [(k, v)]
  | (k', v') :: rest => if k' = k then (k, v) :: rest else (k', v') :: assocSet k v rest

/-- Reads string members into `acc`; a later key replaces an earlier one. -/
def members (first : Bool) (acc : List (String × String)) : Nat → Reader (List (String × String))
  | 0 => failAhead .eofObject
  | fuel + 1 => do
    match ← nextKey first with
    | none => pure acc
    | some k =>
      memberColon
      let v ← readString "a string"
      members false (assocSet k v acc) fuel

/-- Reads a map from strings to strings. -/
def readStringMap : Reader (List (String × String)) := do
  match ← skipBlanks with
  | none => failAhead .eofValue
  | some 0x7B => do
    bump
    let m ← members true [] ((← get).rest.length + 1)
    closeObject
    pure m
  | some _ => invalidType "a map"

/-! ### Records -/

/-- A field of a record of type `α`: its name, and how its value is read
    into the record. -/
structure FieldReader (α : Type) where
  /-- The member name. -/
  name : String
  /-- Reads the value and stores it. -/
  read : α → Reader α

/-- Refuses a field given twice; the fault stands after the closing brace
    when that follows. -/
def duplicateField (name : String) : Reader α := do
  let c ← get
  let (r, n) := dropBlanks c.rest 0
  let close := if r.head? = some 0x7D then 1 else 0
  throw (errorAt c.src (c.index + n + close) (.duplicateField name))

/-- Fills fields in order from array elements, while elements remain. -/
def fieldsInOrder (first : Bool) : List (FieldReader α) → α → Reader α
  | [], a => pure a
  | f :: fs, a => do
    if ← moreElements first then
      let a' ← f.read a
      fieldsInOrder false fs a'
    else pure a

/-- Fills fields from object members; `seen` holds the names read. -/
def fieldsByName (fields : List (FieldReader α)) (first : Bool) (seen : List String) (a : α) :
    Nat → Reader α
  | 0 => failAhead .eofObject
  | fuel + 1 => do
    match ← nextKey first with
    | none => pure a
    | some k =>
      match fields.find? (·.name = k) with
      | some f =>
        if seen.contains k then duplicateField k
        else do
          memberColon
          let a' ← f.read a
          fieldsByName fields false (k :: seen) a' fuel
      | none => do
        memberColon
        skipValue ((← get).rest.length + 1)
        fieldsByName fields false seen a fuel

/-- Reads a record named `name` with the given fields, starting from the
    defaults `init`. -/
def readRecord (name : String) (fields : List (FieldReader α)) (init : α) : Reader α := do
  match ← skipBlanks with
  | none => failAhead .eofValue
  | some 0x5B => do
    bump
    let a ← fieldsInOrder true fields init
    closeArray
    pure a
  | some 0x7B => do
    bump
    let a ← fieldsByName fields true [] init ((← get).rest.length + 1)
    closeObject
    pure a
  | some _ => invalidType ("struct " ++ name)

end ReplHost.Json
