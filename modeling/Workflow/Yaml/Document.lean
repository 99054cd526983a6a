import Workflow.Yaml.Node
import Workflow.Value.Order
import Workflow.Value.Function

/-!
# Values of documents

The value that the nodes of a document stand for.  Collections are filled one level
after the other, so of several faults the one at the outermost level counts, and of
those the first one.
-/

namespace Workflow

namespace Yaml

/-- A fault and how many levels of collections it lies below the node it was met at. -/
structure Trouble where
  depth : Nat
  fault : ReadFault
  deriving Repr

/-- A result that may be in trouble. -/
abbrev Built := Except Trouble

namespace Built

/-- Trouble at a mark of the node itself. -/
def failAt (m : Mark) : Built α :=
  .error ⟨0, .malformed (some m)⟩

/-- Trouble with the value of the node itself. -/
def ofOutcome (r : Outcome α) : Built α :=
  r.mapError fun f => ⟨0, .value f⟩

/-- A result of a level further in. -/
def below (r : Built α) : Built α :=
  r.mapError fun t => ⟨t.depth + 1, t.fault⟩

/-- A result that is needed at once, whatever level its trouble lies at. -/
def atOnce (r : Built α) : Built α :=
  r.mapError fun t => ⟨0, t.fault⟩

/-- Both results; of two troubles the outermost one, and the first of equals. -/
def both (f : α -> β -> γ) (a : Built α) (b : Built β) : Built γ :=
  match a, b with
  | .ok x, .ok y => .ok (f x y)
  | .error t, .ok _ => .error t
  | .ok _, .error t => .error t
  | .error s, .error t => .error (if t.depth < s.depth then t else s)

end Built

/-! ## Scalars -/

/-- A text without underscores. -/
def dropBars (s : String) : List Char :=
  s.toList.filter (· != '_')

/-- The integer that text to a base stands for. -/
def intToBase (base : Nat) (negative : Bool) (cs : List Char) : Outcome Value := do
  let s := String.ofList cs
  match <- Value.intOfText base s (.str s) with
  | .int n => .ok (.int (if negative then -n else n))
  | v => .ok v

/-- The integer of a text that counts by sixties, its least part coming last. -/
def intBySixties (negative : Bool) (cs : List Char) : Outcome Value := do
  let parts <- (Text.splitAll [':'] cs.length cs).mapM fun part => intToBase 10 false part
  let n := parts.foldl (fun n v => n * 60 + v.asInt?.getD 0) 0
  .ok (.int (if negative then -n else n))

/-- The integer of digits; before version 1.2 a zero in front makes them octal. -/
def intOfDigits (modern negative : Bool) (cs : List Char) : Outcome Value :=
  if modern || cs == ['0'] then intToBase 10 negative cs
  else
    match cs with
    | [] => .error (.other "IndexError" "string index out of range")
    | '0' :: _ => intToBase 8 negative cs
    | cs => if cs.contains ':' then intBySixties negative cs else intToBase 10 negative cs

/-- The integer a scalar stands for. -/
def intOfScalar (modern : Bool) (s : String) : Outcome Value :=
  let cs := dropBars s
  match cs with
  | [] => .error (.other "IndexError" "string index out of range")
  | first :: _ =>
      let body := if first == '+' || first == '-' then cs.drop 1 else cs
      let negative := first == '-'
      match body with
      | '0' :: 'b' :: rest => intToBase 2 negative rest
      | '0' :: 'x' :: rest => intToBase 16 negative rest
      | '0' :: 'o' :: rest => intToBase 8 negative rest
      | body => intOfDigits modern negative body

/-- The double that a text is. -/
def floatOfDigits (s : String) : Outcome Float :=
  match Number.readFloat? s with
  | some x => .ok x
  | none => .error (.badValue s!"could not convert string to float: {(Value.str s).literal}")

/-- The double of a text that counts by sixties, summed from its least part on. -/
def floatBySixties (s : String) : Outcome Float := do
  let parts <- (Text.splitAll [':'] s.length s.toList).mapM fun part =>
    floatOfDigits (String.ofList part)
  let sum := parts.reverse.foldl (fun (total, unit) x => (total + x * unit, unit * 60.0)) (0.0, 1.0)
  .ok sum.1

/-- The double a scalar stands for. -/
def floatOfScalar (modern : Bool) (s : String) : Outcome Value :=
  let cs := Text.lower (dropBars s)
  match cs with
  | [] => .error (.other "IndexError" "string index out of range")
  | first :: _ =>
      let body := String.ofList (if first == '+' || first == '-' then cs.drop 1 else cs)
      let sign (x : Float) : Value := .float (if first == '-' then -x else x)
      if body == ".inf" then .ok (sign (1.0 / 0.0))
      else if body == ".nan" then .ok (.float (0.0 / 0.0))
      else if !modern && body.toList.contains ':' then (floatBySixties body).map sign
      else (floatOfDigits body).map sign

/-- The truth value a scalar stands for. -/
def boolOfScalar (s : String) : Outcome Value :=
  let word := String.ofList (Text.lower s.toList)
  if ["yes", "y", "true", "on"].contains word then .ok (.bool true)
  else if ["no", "n", "false", "off"].contains word then .ok (.bool false)
  else .error (.other "KeyError" (Value.str word).literal)

/-- A date that exists. -/
def checkDate (d : Date) : Outcome Date :=
  if d.year == 0 then .error (.badValue "year 0 is out of range")
  else if d.month == 0 || 12 < d.month then .error (.badValue "month must be in 1..12")
  else if d.day == 0 || Date.daysInMonth d.year d.month < d.day then
    .error (.badValue "day is out of range for month")
  else .ok d

/-- Microseconds of the digits of a fraction, rounded at the sixth. -/
def fractionMicroseconds (digits : List Char) : Nat :=
  let value (cs : List Char) : Nat := cs.foldl (fun n c => n * 10 + (c.toNat - '0'.toNat)) 0
  let six := value ((digits ++ List.replicate 6 '0').take 6)
  match digits.drop 6 with
  | c :: _ => if '4' < c then six + 1 else six
  | [] => six

/-- Microseconds in a minute. -/
def minuteMicroseconds : Int := 60000000

/-- A zone that is less than a day away from universal time. -/
def checkZone (z : Zone) : Outcome Unit :=
  if z.minutes.natAbs < 1440 then .ok ()
  else
    let shown := (Value.span (z.minutes * minuteMicroseconds)).literal
    .error (.badValue ("offset must be a timedelta strictly between -timedelta(hours=24) and "
      ++ s!"timedelta(hours=24), not {shown}."))

/-- The date or the moment that is written. -/
def valueOfTimestamp (t : Timestamp) : Outcome Value := do
  match t.time with
  | none => .ok (.date (<- checkDate t.date))
  | some (hour, minute, second) => do
      if let some z := t.zone then checkZone z
      let date <- checkDate t.date
      if 23 < hour then .error (.badValue "hour must be in 0..23")
      else if 59 < minute then .error (.badValue "minute must be in 0..59")
      else if 59 < second then .error (.badValue "second must be in 0..59")
      else
        let micro := fractionMicroseconds t.fraction
        let whole : DateTime := ⟨date, hour, minute, second, 0, none⟩
        let high : DateTime := ⟨⟨9999, 12, 31⟩, 23, 59, 59, 999999, none⟩
        let face := whole.faceMicroseconds + micro
        if high.faceMicroseconds < face then .error (.overflow "date value out of range")
        else .ok (.datetime (DateTime.ofFaceMicroseconds face t.zone))

/-- The six bits of a character of base 64. -/
def sixBits? (c : Char) : Option Nat :=
  if 'A' ≤ c && c ≤ 'Z' then some (c.toNat - 'A'.toNat)
  else if 'a' ≤ c && c ≤ 'z' then some (c.toNat - 'a'.toNat + 26)
  else if c.isDigit then some (c.toNat - '0'.toNat + 52)
  else if c == '+' then some 62
  else if c == '/' then some 63
  else none

/-- The bytes of groups of six bits. -/
def packBits : List Nat -> List UInt8
  | a :: b :: c :: d :: rest =>
      let n := ((a * 64 + b) * 64 + c) * 64 + d
      UInt8.ofNat (n / 65536) :: UInt8.ofNat (n / 256) :: UInt8.ofNat n :: packBits rest
  | [a, b, c] =>
      let n := ((a * 64 + b) * 64 + c) * 64
      [UInt8.ofNat (n / 65536), UInt8.ofNat (n / 256)]
  | [a, b] => [UInt8.ofNat ((a * 64 + b) / 16)]
  | _ => []

/--
The groups of six bits up to the padding that completes a group of four.  `place` counts
the characters of the group so far and `pads` the padding right before; other characters
are passed over, and so is padding that another character follows.
-/
def sixBitGroups? (place pads : Nat) : List Char -> Option (List Nat)
  | [] => if place == 0 then some [] else none
  | '=' :: rest =>
      if place < 2 then sixBitGroups? place pads rest
      else if 4 ≤ place + pads + 1 then some []
      else sixBitGroups? place (pads + 1) rest
  | c :: rest =>
      match sixBits? c with
      | some bits => (sixBitGroups? ((place + 1) % 4) 0 rest).map (bits :: ·)
      | none => sixBitGroups? place pads rest

/-- The bytes that text in base 64 stands for. -/
def bytesOfScalar? (s : String) : Option (List UInt8) :=
  if s.toList.all fun c => c.toNat < 128 then (sixBitGroups? 0 0 s.toList).map packBits else none

/-- The value of a scalar with a tag. -/
def valueOfScalar (modern : Bool) (tag text : String) (m : Mark) : Built Value :=
  if tag == coreTag "str" then .ok (.str text)
  else if tag == coreTag "null" then .ok .null
  else if tag == coreTag "bool" then Built.ofOutcome (boolOfScalar text)
  else if tag == coreTag "int" then Built.ofOutcome (intOfScalar modern text)
  else if tag == coreTag "float" then Built.ofOutcome (floatOfScalar modern text)
  else if tag == coreTag "timestamp" then
    match readTimestamp? (beforeLineEnd text).toList with
    | some t => Built.ofOutcome (valueOfTimestamp t)
    | none => Built.failAt m
  else if tag == coreTag "binary" then
    match bytesOfScalar? text with
    | some data => .ok (.bytes data)
    | none => Built.failAt m
  else Built.failAt m

/-! ## Collections -/

/-- An entry of a mapping with where its key begins. -/
structure Pair where
  key : Built Value
  mark : Mark
  value : Built Value

/-- The entries taken over from other mappings, and those of the mapping itself. -/
structure Entries where
  merged : List Pair
  own : List Pair

/-- The value a key stands for: sequences count as tuples. -/
def keyValue (p : Pair) : Built Value := do
  match <- p.key with
  | .list items =>
      if items.any fun v => (Value.unhashable? v).isSome then
        Built.ofOutcome (Value.hashable (.tuple items))
      else .ok (.tuple items)
  | v => if (Value.unhashable? v).isSome then Built.failAt p.mark else .ok v

/-- Fill a dictionary; where `unique` a key may not occur twice. -/
def fill (unique : Bool) (entries : List (Value × Value)) : List Pair -> Built (List (Value × Value))
  | [] => .ok entries
  | p :: rest =>
      match keyValue p with
      | .error t => .error t
      | .ok key =>
          if unique && (Value.lookup? entries key).isSome then
            match p.value with
            | .error ⟨0, f⟩ => .error ⟨0, f⟩
            | _ => Built.failAt p.mark
          else
            match p.value with
            | .error ⟨0, f⟩ => .error ⟨0, f⟩
            | .error t =>
                match fill unique (Value.insert entries key .null) rest with
                | .error u => .error (if u.depth < t.depth then u else t)
                | .ok _ => .error t
            | .ok v => fill unique (Value.insert entries key v) rest

/-- Fill a dictionary one entry after the other; a key is looked at before its value. -/
def fillInOrder (entries : List (Value × Value)) : List Pair -> Built (List (Value × Value))
  | [] => .ok entries
  | p :: rest => do
      let key <- p.key
      Built.ofOutcome (do let _ <- Value.hashable key)
      if (Value.lookup? entries key).isSome then .error ⟨0, .value (.other "AssertionError" "")⟩
      else
        Built.both (fun _ all => all) p.value
          (fillInOrder (Value.insert entries key ((p.value.toOption).getD .null)) rest)

/-- The dictionary of entries: those of other mappings come first and may be replaced. -/
def dictOf (e : Entries) : Built (List (Value × Value)) :=
  if e.merged.isEmpty then fill true [] e.own
  else do
    let merged <- fill false [] e.merged
    let again <- fill false [] (e.merged ++ e.own)
    .ok (again.foldl (fun entries (k, v) => Value.insert entries k v) merged)

/-- The entries as tuples of key and value. -/
def tuplesOf : List Pair -> Built (List Value)
  | [] => .ok []
  | p :: rest =>
      let single := Built.both (fun k v => Value.tuple [k, v]) p.key p.value
      Built.both (· :: ·) single (tuplesOf rest)

/-- Whether a node is the key that takes over the entries of other mappings. -/
def isMergeKey (n : Node) : Bool :=
  n.tag == coreTag "merge"

/-- The key that a value tag makes: the text itself. -/
def keyNodeValue? : Node -> Option Value
  | .scalar tag text _ => if tag == coreTag "value" then some (.str text) else none
  | _ => none

/-- A collection with a tag that is none of the language's. -/
def unknownTag (tag : String) (known : List String) : Bool :=
  !(known.map coreTag).contains tag

mutual

/-- The value of a node. -/
def build (modern : Bool) : Node -> Built Value
  | .scalar tag text m => valueOfScalar modern tag text m
  | .sequence tag items m =>
      if tag == coreTag "seq" then do .ok (.list (<- (buildItems modern items).below))
      else if tag == coreTag "omap" then do
        .ok (.dict (<- (do fillInOrder [] (<- buildPairs modern items)).below))
      else if tag == coreTag "pairs" then do
        .ok (.list (<- (do tuplesOf (<- buildPairs modern items)).below))
      else if unknownTag tag ["map", "set"] then Built.failAt m
      else (Built.failAt m : Built Value).below
  | .mapping tag entries m =>
      if tag == coreTag "map" then do
        .ok (.dict (<- (do dictOf (<- buildEntries modern entries)).below))
      else if tag == coreTag "set" then do
        let ps <- (do dictOf (<- buildEntries modern entries)).below
        .ok (.set (ps.map (·.1)))
      else if unknownTag tag ["seq", "omap", "pairs"] then Built.failAt m
      else (Built.failAt m : Built Value).below

/-- The values of items. -/
def buildItems (modern : Bool) : List Node -> Built (List Value)
  | [] => .ok []
  | n :: rest => Built.both (· :: ·) (build modern n) (buildItems modern rest)

/-- The entries of items that are mappings of one entry each. -/
def buildPairs (modern : Bool) : List Node -> Built (List Pair)
  | [] => .ok []
  | .mapping _ [(k, v)] _ :: rest => do
      .ok (⟨build modern k, k.mark, build modern v⟩ :: (<- buildPairs modern rest))
  | n :: _ => .ok [⟨Built.failAt n.mark, n.mark, .ok .null⟩]

/-- The entries of a mapping, with those that a key takes over from other mappings. -/
def buildEntries (modern : Bool) : List (Node × Node) -> Built Entries
  | [] => .ok ⟨[], []⟩
  | (k, v) :: rest => do
      if isMergeKey k then
        let merged <- buildMerged modern v
        let more <- buildEntries modern rest
        if more.merged.isEmpty then .ok ⟨merged, more.own⟩
        else Built.failAt (((rest.map (·.1)).find? isMergeKey).getD k).mark
      else
        let key := match keyNodeValue? k with
          | some s => .ok s
          | none => (build modern k).atOnce
        let value := build modern v
        let more <- buildEntries modern rest
        .ok { more with own := ⟨key, k.mark, value⟩ :: more.own }

/-- The entries of a mapping, or of the mappings in a sequence, the last ones first. -/
def buildMerged (modern : Bool) : Node -> Built (List Pair)
  | .scalar _ _ m => Built.failAt m
  | .mapping _ entries _ => do
      let e <- buildEntries modern entries
      .ok (e.merged ++ e.own)
  | .sequence _ items _ => buildMergedItems modern items

/-- The entries of mappings, the last ones first. -/
def buildMergedItems (modern : Bool) : List Node -> Built (List Pair)
  | [] => .ok []
  | .mapping _ entries _ :: rest => do
      let e <- buildEntries modern entries
      .ok ((<- buildMergedItems modern rest) ++ e.merged ++ e.own)
  | n :: _ => Built.failAt n.mark

end

/-- The value of the only document of a text; nothing when there is none. -/
def read (s : String) : Except ReadFault Value := do
  match <- readNode s.toList with
  | (none, _) => .ok .null
  | (some n, version) => (build (version != (1, 1)) n).mapError (·.fault)

end Yaml

end Workflow
