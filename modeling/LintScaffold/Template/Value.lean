import LintScaffold.Datum
import LintScaffold.Number.Complex
import LintScaffold.Template.Fault

/-!
# Values of expressions

What the expressions of a template evaluate to.  Besides the usual scalars and
containers there are texts that are escaped already, functions that belong to a value,
and values that are not there: to mention such a value is no fault, but to use it is.

Some values change while they are used: the items that remain to be gone through, and the
state of a loop.  Such a value is the place in memory where its state is kept.  Others
differ from themselves: a NaN, and a value that is not there.  Two of them are told apart
by their marks, which are given out one after another; the mark zero is given to a value
until then.
-/

namespace LintScaffold.Template

/-! ## Markup -/

/-- A character, escaped if it means something in markup. -/
def escapeChar (c : Char) : Text :=
  if c = '&' then "&amp;".toList
  else if c = '<' then "&lt;".toList
  else if c = '>' then "&gt;".toList
  else if c = '\'' then "&#39;".toList
  else if c = '"' then "&#34;".toList
  else [c]

/-- A text with its special characters escaped. -/
def escapeMarkup (t : Text) : Text := t.flatMap escapeChar

/-! ## Values -/

/-- The parts of a dictionary that can be gone through. -/
inductive View
  | keys
  | values
  | items
  deriving DecidableEq

/-- The word for the kind of a part of a dictionary. -/
def View.kindName : View → String
  | .keys => "dict_keys"
  | .values => "dict_values"
  | .items => "dict_items"

/-- A value. -/
inductive Value
  | none
  | bool (b : Bool)
  | int (n : Int)
  | float (x : Binary64) (mark : Nat)
  | complex (z : Complex) (mark : Nat)
  | text (t : Text)
  /-- A text whose special characters are escaped. -/
  | markup (t : Text)
  | list (items : List Value)
  | tuple (items : List Value)
  | dict (entries : List (Value × Value))
  | view (part : View) (entries : List (Value × Value)) (mark : Nat)
  /-- The bounds and the stride of a slice. -/
  | slice (start stop stride : Value)
  /-- Items that can be gone through once; those that remain are kept at `place`. -/
  | stream (kind : String) (place : Nat)
  /-- The state of a loop, which is kept at `place`. -/
  | loop (place : Nat)
  /-- A function that belongs to a value. -/
  | method (owner : Value) (name : String)
  /-- A kind of values, or a function that belongs to no value. -/
  | builtin (name : String)
  /-- The template itself. -/
  | template
  /-- What a variable holds before it has a value. -/
  | unset
  | absent (cause : Absence) (mark : Nat)

namespace Value

/-- A double that has no mark yet. -/
def ofFloat (x : Binary64) : Value := .float x 0

/-- A complex number that has no mark yet. -/
def ofComplex (z : Complex) : Value := .complex z 0

/-- A natural number. -/
def ofNat (n : Nat) : Value := .int (Int.ofNat n)

/-- A value that is not there and has no mark yet. -/
def missing (cause : Absence) : Value := .absent cause 0

/-! ## Kinds -/

/-- The functions that are no kinds. -/
def plainFunctions : List String := ["lipsum"]

/-- The functions of a text that take no notice of whether it is escaped. -/
def heedlessFunctions : List String :=
  ["count", "encode", "endswith", "find", "index", "isalnum", "isalpha", "isascii", "isdecimal",
    "isdigit", "isidentifier", "islower", "isnumeric", "isprintable", "isspace", "istitle",
    "isupper", "maketrans", "rfind", "rindex", "startswith"]

/-- The word for the kind of a value. -/
def kindName : Value → String
  | .none => "NoneType"
  | .bool _ => "bool"
  | .int _ => "int"
  | .float _ _ => "float"
  | .complex _ _ => "complex"
  | .text _ => "str"
  | .markup _ => "Markup"
  | .list _ => "list"
  | .tuple _ => "tuple"
  | .dict _ => "dict"
  | .view part _ _ => part.kindName
  | .slice _ _ _ => "slice"
  | .stream kind _ => kind
  | .loop _ => "LoopContext"
  | .method (.markup _) name =>
      if heedlessFunctions.contains name then "builtin_function_or_method" else "method"
  | .method (.loop _) _ => "method"
  | .method _ _ => "builtin_function_or_method"
  | .builtin name => if plainFunctions.contains name then "function" else "type"
  | .template => "TemplateReference"
  | .unset => "MissingType"
  | .absent cause _ => if cause.isStrict then "StrictUndefined" else "Undefined"

/-- What messages about missing parts call a value. -/
def ownerName : Value → String
  | .none => "None"
  | .markup _ => "markupsafe.Markup object"
  | .loop _ => "jinja2.runtime.LoopContext object"
  | .template => "jinja2.runtime.TemplateReference object"
  | .unset => "jinja2.utils.MissingType object"
  | .absent cause _ =>
      if cause.isStrict then "jinja2.runtime.StrictUndefined object"
      else "jinja2.runtime.Undefined object"
  | v => v.kindName ++ " object"

/-- The text that the value is, escaped or not. -/
def text? : Value → Option Text
  | .text t => some t
  | .markup t => some t
  | _ => Option.none

/-- The whole number that the value is; truth values count as zero and one. -/
def int? : Value → Option Int
  | .bool b => some (if b then 1 else 0)
  | .int n => some n
  | _ => Option.none

/-- The real number that the value is. -/
def number? : Value → Option (Int ⊕ Binary64)
  | .bool b => some (.inl (if b then 1 else 0))
  | .int n => some (.inl n)
  | .float x _ => some (.inr x)
  | _ => Option.none

/-- The value is a complex number that is not given as a real one. -/
def isComplex : Value → Bool
  | .complex _ _ => true
  | _ => false

/-- The value is not there. -/
def isAbsent : Value → Bool
  | .absent _ _ => true
  | _ => false

/-! ## Marks -/

/-- The complex number differs from itself. -/
def hasNan (z : Complex) : Bool := z.re = .nan || z.im = .nan

/-- The value waits for a mark. -/
def needsMark : Value → Bool
  | .float x mark => x = .nan && mark = 0
  | .complex z mark => hasNan z && mark = 0
  | .view _ _ mark => mark = 0
  | .absent _ mark => mark = 0
  | _ => false

/-- The value with a mark. -/
def withMark (mark : Nat) : Value → Value
  | .float x _ => .float x mark
  | .complex z _ => .complex z mark
  | .view part entries _ => .view part entries mark
  | .absent cause _ => .absent cause mark
  | v => v

/-- The two values are one and the same, although they may differ from themselves. -/
def isOne : Value → Value → Bool
  | .float .nan m, .float .nan n => m = n
  | .complex z m, .complex w n => hasNan z && hasNan w && m = n
  | .view _ _ m, .view _ _ n => m = n
  | .absent _ m, .absent _ n => m = n
  | _, _ => false

/-! ## Display -/

mutual
/-- Some whole number in the value has more digits than may be written. -/
def hasLongNumber : Value → Bool
  | .int n => isTooLong n
  | .list vs => anyLongNumber vs
  | .tuple vs => anyLongNumber vs
  | .dict entries => anyLongEntry entries
  | .view _ entries _ => anyLongEntry entries
  | .slice start stop stride =>
      hasLongNumber start || hasLongNumber stop || hasLongNumber stride
  | _ => false

/-- Some value of a list has a number with too many digits. -/
def anyLongNumber : List Value → Bool
  | [] => false
  | v :: rest => hasLongNumber v || anyLongNumber rest

/-- Some key or value of a dictionary has a number with too many digits. -/
def anyLongEntry : List (Value × Value) → Bool
  | [] => false
  | (key, v) :: rest => hasLongNumber key || hasLongNumber v || anyLongEntry rest
end

mutual
/-- The places of the loops that a value mentions. -/
def loopsIn : Value → List Nat
  | .loop place => [place]
  | .method owner _ => loopsIn owner
  | .list vs => loopsInAll vs
  | .tuple vs => loopsInAll vs
  | .dict entries => loopsInEntries entries
  | .view _ entries _ => loopsInEntries entries
  | _ => []

/-- The places of the loops that the values of a list mention. -/
def loopsInAll : List Value → List Nat
  | [] => []
  | v :: rest => loopsIn v ++ loopsInAll rest

/-- The places of the loops that the entries of a dictionary mention. -/
def loopsInEntries : List (Value × Value) → List Nat
  | [] => []
  | (key, v) :: rest => loopsIn key ++ loopsIn v ++ loopsInEntries rest
end

/-- The text of a kind of values, or of a function that belongs to no value. -/
def builtinShown (name : String) : Text :=
  if plainFunctions.contains name then "<function ".toList ++ name.toList ++ ['>']
  else "<class '".toList ++ name.toList ++ "'>".toList

mutual
/-- The text of a value inside a list; `loopText` gives the texts of loops. -/
def shown (loopText : Nat → Text) : Value → Text
  | .none => "None".toList
  | .bool b => boolText b
  | .int n => Text.ofInt n
  | .float x _ => x.text
  | .complex z _ => z.text
  | .text t => Text.quoted t
  | .markup t => "Markup(".toList ++ Text.quoted t ++ [')']
  | .list vs => ['['] ++ Text.join ", ".toList (allShown loopText vs) ++ [']']
  | .tuple [v] => ['('] ++ shown loopText v ++ ",)".toList
  | .tuple vs => ['('] ++ Text.join ", ".toList (allShown loopText vs) ++ [')']
  | .dict entries =>
      ['\x7b'] ++ Text.join ", ".toList (entriesShown loopText entries) ++ ['\x7d']
  | .view part entries _ =>
      Text.join [] [part.kindName.toList, "([".toList,
        Text.join ", ".toList (partShown loopText part entries), "])".toList]
  | .slice start stop stride =>
      Text.join [] ["slice(".toList, shown loopText start, ", ".toList, shown loopText stop,
        ", ".toList, shown loopText stride, [')']]
  | .stream kind _ => ['<'] ++ kind.toList ++ " object>".toList
  | .loop place => loopText place
  | .method (.markup t) name =>
      Text.join [] ["<bound method Markup.".toList, name.toList, " of Markup(".toList,
        Text.quoted t, ")>".toList]
  | .method (.loop place) name =>
      Text.join [] ["<bound method LoopContext.".toList, name.toList, " of ".toList,
        loopText place, ['>']]
  | .method owner name =>
      Text.join [] ["<built-in method ".toList, name.toList, " of ".toList,
        owner.kindName.toList, " object>".toList]
  | .builtin name => builtinShown name
  | .template => "<TemplateReference None>".toList
  | .unset => "missing".toList
  | .absent _ _ => "Undefined".toList

/-- The texts of the values of a list. -/
def allShown (loopText : Nat → Text) : List Value → List Text
  | [] => []
  | v :: rest => shown loopText v :: allShown loopText rest

/-- The texts of the entries of a dictionary. -/
def entriesShown (loopText : Nat → Text) : List (Value × Value) → List Text
  | [] => []
  | (key, v) :: rest =>
      (shown loopText key ++ ": ".toList ++ shown loopText v) :: entriesShown loopText rest

/-- The texts of a part of the entries of a dictionary. -/
def partShown (loopText : Nat → Text) (part : View) : List (Value × Value) → List Text
  | [] => []
  | (key, v) :: rest =>
      (match part with
        | .keys => shown loopText key
        | .values => shown loopText v
        | .items =>
            Text.join [] [['('], shown loopText key, ", ".toList, shown loopText v, [')']]) ::
        partShown loopText part rest
end

/-- The text of a value inside a list that mentions no loop. -/
def plainShown (v : Value) : Text := v.shown fun _ => []

/-! ## Content -/

/-- The items of a part of a dictionary. -/
def viewItems (part : View) (entries : List (Value × Value)) :
    List Value :=
  match part with
  | .keys => entries.map Prod.fst
  | .values => entries.map Prod.snd
  | .items => entries.map fun (key, v) => .tuple [key, v]

/-- The items of a value that has the same ones whenever it is gone through. -/
def items? : Value → Except EvalFault (Option (List Value))
  | .text t => .ok (some (t.map fun c => .text [c]))
  | .markup t => .ok (some (t.map fun c => .text [c]))
  | .list vs => .ok (some vs)
  | .tuple vs => .ok (some vs)
  | .dict entries => .ok (some (entries.map Prod.fst))
  | .view part entries _ => .ok (some (viewItems part entries))
  | .template => .error (.noEntry ['0'])
  | .absent cause _ => if cause.isStrict then .error cause.fault else .ok (some [])
  | _ => .ok Option.none

end Value
end LintScaffold.Template
