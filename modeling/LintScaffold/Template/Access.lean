import LintScaffold.Template.Comparing

/-!
# Parts of values

The attributes, elements and slices of a value.  A part that a value does not have is
not there, which is a fault only once it is used; a slice of a value that has no slices
is a fault at once.
-/

namespace LintScaffold.Template.Value

/-! ## Functions of values -/

/-- The functions that belong to texts. -/
def textFunctions : List String :=
  heedlessFunctions ++
    ["capitalize", "casefold", "center", "expandtabs", "format", "format_map", "join", "ljust",
      "lower", "lstrip", "partition", "removeprefix", "removesuffix", "replace", "rjust",
      "rpartition", "rsplit", "rstrip", "split", "splitlines", "strip", "swapcase", "title",
      "translate", "upper", "zfill"]

/-- The functions that belong to escaped texts only. -/
def markupFunctions : List String := ["escape", "striptags", "unescape"]

/-- The functions that belong to whole numbers. -/
def intFunctions : List String :=
  ["as_integer_ratio", "bit_count", "bit_length", "conjugate", "from_bytes", "to_bytes"]

/-- The functions that belong to doubles. -/
def floatFunctions : List String :=
  ["as_integer_ratio", "conjugate", "fromhex", "hex", "is_integer"]

/-- The functions that belong to lists. -/
def listFunctions : List String :=
  ["append", "clear", "copy", "count", "extend", "index", "insert", "pop", "remove", "reverse",
    "sort"]

/-- The functions that belong to dictionaries. -/
def dictFunctions : List String :=
  ["clear", "copy", "fromkeys", "get", "items", "keys", "pop", "popitem", "setdefault", "update",
    "values"]

/-- The functions that belong to a value. -/
def functions : Value → List String
  | .bool _ => intFunctions
  | .int _ => intFunctions
  | .float _ _ => floatFunctions
  | .complex _ _ => ["conjugate"]
  | .text _ => textFunctions
  | .markup _ => textFunctions ++ markupFunctions
  | .list _ => listFunctions
  | .tuple _ => ["count", "index"]
  | .dict _ => dictFunctions
  | .view .values _ _ => []
  | .view _ _ _ => ["isdisjoint"]
  | .loop _ => ["changed", "cycle"]
  | _ => []

/-! ## Attributes -/

/-- The part of a whole number that an attribute is. -/
def intPart? (n : Int) (name : String) : Option Value :=
  match name with
  | "real" => some (.int n)
  | "numerator" => some (.int n)
  | "imag" => some (.int 0)
  | "denominator" => some (.int 1)
  | _ => Option.none

/-- The part of a number that an attribute is. -/
def numberPart? (v : Value) (name : String) : Option Value :=
  match v with
  | .bool b => intPart? (if b then 1 else 0) name
  | .int n => intPart? n name
  | .float x mark =>
      if name = "real" then some (.float x mark)
      else if name = "imag" then some (.ofFloat (Binary64.zero false))
      else Option.none
  | .complex z _ =>
      if name = "real" then some (.ofFloat z.re)
      else if name = "imag" then some (.ofFloat z.im)
      else Option.none
  | _ => Option.none

/-- An attribute of the state of a loop that is no function. -/
def loopAttribute? (place : Nat) (name : String) : Run (Option Value) := do
  let begun := (← Run.rounds place).begun
  let depth := (← Run.rounds place).depth
  match name with
  | "index" => return some (.ofNat begun)
  | "index0" => return some (.ofNat (begun - 1))
  | "depth" => return some (.ofNat depth)
  | "depth0" => return some (.ofNat (depth - 1))
  | "first" => return some (.bool (begun == 1))
  | "last" => return some (.bool (← Run.lookAhead place).isNone)
  | "length" => return some (.ofNat (← Run.count place))
  | "revindex" => return some (.int (Int.ofNat (← Run.count place) - Int.ofNat begun + 1))
  | "revindex0" => return some (.int (Int.ofNat (← Run.count place) - Int.ofNat begun))
  | "previtem" =>
      if begun = 1 then return some (.missing .previous)
      else return some ((← Run.rounds place).before.getD (.missing .previous))
  | "nextitem" => return some ((← Run.lookAhead place).getD (.missing .next))
  | _ => return Option.none

/-- An attribute of a value. -/
def attribute? (v : Value) (name : Text) : Run (Option Value) := do
  match v with
  | .absent cause _ => Run.fail cause.fault
  | v =>
      match v.functions.find? fun n => n.toList = name with
      | some n => return some (.method v n)
      | Option.none =>
          let name := String.ofList name
          match v with
          | .loop place => loopAttribute? place name
          | v => return numberPart? v name

/-- What follows a dot: an attribute, or else an entry of a dictionary. -/
def field (v : Value) (name : Text) : Run Value := do
  match ← v.attribute? name with
  | some found => return found
  | Option.none =>
      let missing : Value := .missing (.attribute v.ownerName (Text.quoted name))
      match v with
      | .dict entries => return (← Run.check (valueAt? entries (.text name))).getD missing
      | _ => return missing

/-! ## Slices -/

/-- A bound of a slice, brought into the range that makes sense for `length` items; going
backwards, the range begins one place further down. -/
def clampBound (length : Nat) (backwards : Bool) (bound : Int) : Int :=
  let bound := if bound < 0 then bound + Int.ofNat length else bound
  let lowest : Int := if backwards then -1 else 0
  let highest : Int := if backwards then Int.ofNat length - 1 else Int.ofNat length
  if bound < lowest then lowest else if highest < bound then highest else bound

/-- The items from `start` up to but not including `stop`, taking each `stride`-th one. -/
def sliceItems {α : Type} (items : List α) (start stop : Option Int) (stride : Int) : List α :=
  let length := items.length
  let backwards := decide (stride < 0)
  let first :=
    match start with
    | some bound => clampBound length backwards bound
    | Option.none => if backwards then Int.ofNat length - 1 else 0
  let beyond :=
    match stop with
    | some bound => clampBound length backwards bound
    | Option.none => if backwards then -1 else Int.ofNat length
  let span := if backwards then first - beyond else beyond - first
  let count := if span ≤ 0 then 0 else (span.toNat - 1) / stride.natAbs + 1
  let places := items.toArray
  (List.range count).filterMap fun k => places[(first + Int.ofNat k * stride).toNat]?

/-- A bound of a slice; none leaves it open. -/
def bound? : Value → Except EvalFault (Option Int)
  | .none => .ok Option.none
  | v =>
      match v.int? with
      | some n => .ok (some n)
      | Option.none => .error (.kind .sliceBound)

/-- The stride of a slice. -/
def strideOf (v : Value) : Except EvalFault Int := do
  match ← bound? v with
  | Option.none => return 1
  | some stride => if stride = 0 then .error (.value .zeroStride) else return stride

/-- The items that a slice picks. -/
def pick {α : Type} (items : List α) (start stop stride : Value) :
    Except EvalFault (List α) := do
  let stride ← strideOf stride
  let start ← bound? start
  let stop ← bound? stop
  return sliceItems items start stop stride

/-- A slice of a value. -/
def sliced (v start stop stride : Value) : Except EvalFault Value := do
  match v with
  | .text t => return .text (← pick t start stop stride)
  | .markup t => return .markup (← pick t start stop stride)
  | .list vs => return .list (← pick vs start stop stride)
  | .tuple vs => return .tuple (← pick vs start stop stride)
  | .dict _ => .error (.kind (.noKey "slice"))
  | .template => .error (.kind (.noKey "slice"))
  | .absent cause _ => .error cause.fault
  | v => .error (.kind (.noSlices v.kindName))

/-! ## Elements -/

/-- The item with the given number, counted from the end if it is negative. -/
def itemAt? {α : Type} (items : List α) (i : Int) : Option α :=
  let i := if i < 0 then i + Int.ofNat items.length else i
  if i < 0 then Option.none else items[i.toNat]?

/-- The outcome of a search, in which a value of the wrong kind finds nothing. -/
def found? (outcome : Except EvalFault (Option Value)) : Except EvalFault (Option Value) :=
  match outcome with
  | .error fault => if fault.isLookup then .ok Option.none else .error fault
  | .ok found => .ok found

/-- An element of a value. -/
def element? (v index : Value) : Except EvalFault (Option Value) :=
  match v, index, index.int? with
  | .dict entries, _, _ => found? (valueAt? entries index)
  | .absent cause _, _, _ => .error cause.fault
  | v, .slice start stop stride, _ => found? (some <$> sliced v start stop stride)
  | .list vs, _, some i => .ok (itemAt? vs i)
  | .tuple vs, _, some i => .ok (itemAt? vs i)
  | .text t, _, some i => .ok ((itemAt? t i).map fun c => .text [c])
  | .markup t, _, some i => .ok ((itemAt? t i).map fun c => .markup [c])
  | _, _, _ => .ok Option.none

/-- The text of an index that is missing, if it can be written. -/
def shownIndex (index : Value) : Run (Option Text) := do
  if index.hasLongNumber then return Option.none else return some (← index.shownInside)

/-- What stands between brackets after a value: an element, or else an attribute. -/
def item (v index : Value) : Run Value := do
  match ← Run.check (element? v index) with
  | some found => return found
  | Option.none =>
      match index.text? with
      | some name =>
          match ← v.attribute? name with
          | some found => return found
          | Option.none => return .missing (.attribute v.ownerName index.plainShown)
      | Option.none => return .missing (.element v.ownerName (← shownIndex index))

/-- Sets an entry of a value under a name: that of a dictionary, since no other value has
entries with names. -/
def withEntry (v : Value) (name : Text) (w : Value) : Except EvalFault Value :=
  match v with
  | .dict entries => .dict <$> insertEntry (.text name) w entries
  | .list _ => .error (.kind (.indexKind "list" "str"))
  | v => .error (.kind (.noAssignment v.kindName))

end LintScaffold.Template.Value
