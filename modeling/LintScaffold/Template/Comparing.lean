import LintScaffold.Datum.Order
import LintScaffold.Template.Memory

/-!
# Comparing values

Equality, order and containment.  Numbers are compared by value whatever their kind,
texts by code points, lists and tuples item by item.  A value that is not there can be
compared with nothing.

Inside containers a value is found by being the one that is searched for, or by being
equal to it.  The difference shows only for values that differ from themselves.
-/

namespace LintScaffold.Template.Value

/-! ## Equality -/

/-- The fault of using a value that is not there. -/
def used : Value → Except EvalFault Unit
  | .absent cause _ => if cause.isStrict then .error cause.fault else .ok ()
  | _ => .ok ()

/-- The first entry that satisfies a test. -/
def firstEntry (test : Value → Except EvalFault Bool) :
    List (Value × Value) → Except EvalFault (Option Value)
  | [] => .ok Option.none
  | (key, v) :: rest => do if ← test key then return some v else firstEntry test rest

/-- The two numbers are equal. -/
def numbersEqual : Value → Value → Bool
  | .complex z _, .complex w _ => z.eq w
  | .complex z _, w =>
      match w.number? with
      | some n => z.im.isZero && Datum.numbersEqual (.inr z.re) n
      | Option.none => false
  | v, .complex z _ =>
      match v.number? with
      | some n => z.im.isZero && Datum.numbersEqual (.inr z.re) n
      | Option.none => false
  | v, w =>
      match v.number?, w.number? with
      | some m, some n => Datum.numbersEqual m n
      | _, _ => false

mutual
/-- The two values are equal. -/
def same : Value → Value → Except EvalFault Bool
  | .none, .none => .ok true
  | .template, .template => .ok true
  | .unset, .unset => .ok true
  | .text s, .text t => .ok (s = t)
  | .text s, .markup t => .ok (s = t)
  | .markup s, .text t => .ok (s = t)
  | .markup s, .markup t => .ok (s = t)
  | .list vs, .list ws => if vs.length = ws.length then sameItems vs ws else .ok false
  | .tuple vs, .tuple ws => sameItems vs ws
  | .dict vs, .dict ws => if vs.length = ws.length then entriesAmong vs ws else .ok false
  | .view .keys vs _, .view .keys ws _ =>
      if vs.length = ws.length then keysAmong vs ws else .ok false
  | .view .items vs _, .view .items ws _ =>
      if vs.length = ws.length then entriesAmong vs ws else .ok false
  | .view _ _ m, .view _ _ n => .ok (m = n)
  | .slice a b c, .slice d e f => do
      if !(← if isOne a d then .ok true else same a d) then return false
      if !(← if isOne b e then .ok true else same b e) then return false
      if isOne c f then return true else same c f
  | .stream _ m, .stream _ n => .ok (m = n)
  | .loop m, .loop n => .ok (m = n)
  | .builtin m, .builtin n => .ok (m = n)
  | .method v m, .method w n =>
      if m ≠ n then .ok false else if isOne v w then .ok true else same v w
  | .absent cause _, w =>
      if cause.isStrict then .error cause.fault
      else
        match w with
        | .absent other _ => if other.isStrict then .error other.fault else .ok true
        | _ => .ok false
  | v, w => do
      used w
      return numbersEqual v w

/-- Two lists of values are equal item by item. -/
def sameItems : List Value → List Value → Except EvalFault Bool
  | v :: vs, w :: ws => do
      if ← if isOne v w then .ok true else same v w then sameItems vs ws else return false
  | vs, ws => .ok (vs.isEmpty && ws.isEmpty)

/-- Every entry of the first dictionary is an entry of the second. -/
def entriesAmong : List (Value × Value) → List (Value × Value) → Except EvalFault Bool
  | [], _ => .ok true
  | (key, v) :: vs, ws => do
      match ← firstEntry (fun other => if isOne key other then .ok true else same key other) ws with
      | some w =>
          if isOne v w then entriesAmong vs ws
          else
            used w
            if ← same v w then entriesAmong vs ws else return false
      | Option.none => return false
decreasing_by
  all_goals simp only [List.cons.sizeOf_spec, Prod.mk.sizeOf_spec]
  all_goals omega

/-- Every key of the first dictionary is a key of the second. -/
def keysAmong : List (Value × Value) → List (Value × Value) → Except EvalFault Bool
  | [], _ => .ok true
  | (key, _) :: vs, ws => do
      match ← firstEntry (fun other => if isOne key other then .ok true else same key other) ws with
      | some _ => keysAmong vs ws
      | Option.none => return false
end

/-- The two values are equal, or one and the same. -/
def alike (v w : Value) : Except EvalFault Bool := if isOne v w then .ok true else same v w

/-! ## Order -/

/-- The order that an operator asks for. -/
inductive Order
  | less
  | lessOrEqual
  | greater
  | greaterOrEqual

/-- The operator. -/
def Order.symbol : Order → Text
  | .less => ['<']
  | .lessOrEqual => "<=".toList
  | .greater => ['>']
  | .greaterOrEqual => ">=".toList

/-- The order holds, given that the first value is less, or that the two are equal, or
that the second one is less. -/
def Order.holds (order : Order) (isLess isEqual isGreater : Bool) : Bool :=
  match order with
  | .less => isLess
  | .lessOrEqual => isLess || isEqual
  | .greater => isGreater
  | .greaterOrEqual => isGreater || isEqual

/-- The order between two parts of dictionaries, of which one contains the other. -/
def viewsInOrder (order : Order) (among : List (Value × Value) → List (Value × Value) →
    Except EvalFault Bool) (vs ws : List (Value × Value)) : Except EvalFault Bool :=
  match order with
  | .less => if vs.length < ws.length then among vs ws else .ok false
  | .lessOrEqual => if vs.length ≤ ws.length then among vs ws else .ok false
  | .greater => if ws.length < vs.length then among ws vs else .ok false
  | .greaterOrEqual => if ws.length ≤ vs.length then among ws vs else .ok false

mutual
/-- The two values are in the given order. -/
def inOrder (order : Order) : Value → Value → Except EvalFault Bool
  | .list vs, .list ws => itemsInOrder order vs ws
  | .tuple vs, .tuple ws => itemsInOrder order vs ws
  | .view .keys vs _, .view .keys ws _ => viewsInOrder order keysAmong vs ws
  | .view .items vs _, .view .items ws _ => viewsInOrder order entriesAmong vs ws
  | .absent cause _, _ => .error cause.fault
  | v, w =>
      match w with
      | .absent cause _ => .error cause.fault
      | w =>
          match text? v, text? w with
          | some s, some t => .ok (order.holds (Text.before s t) (s = t) (Text.before t s))
          | _, _ =>
              match number? v, number? w with
              | some m, some n =>
                  .ok (order.holds (Datum.numberLess m n) (Datum.numbersEqual m n)
                    (Datum.numberLess n m))
              | _, _ => .error (.kind (.unordered order.symbol v.kindName w.kindName))

/-- The two lists are in the given order: decided where they first differ, or by length. -/
def itemsInOrder (order : Order) : List Value → List Value → Except EvalFault Bool
  | [], [] => .ok (order.holds false true false)
  | [], _ :: _ => .ok (order.holds true false false)
  | _ :: _, [] => .ok (order.holds false false true)
  | v :: vs, w :: ws => do
      if ← alike v w then itemsInOrder order vs ws else inOrder order v w
end

/-! ## Keys and containment -/

mutual
/-- The value can be a key of a dictionary. -/
def checkKey : Value → Except EvalFault Unit
  | .list _ => .error (.kind (.noKey "list"))
  | .dict _ => .error (.kind (.noKey "dict"))
  | .slice _ _ _ => .error (.kind (.noKey "slice"))
  | .tuple vs => checkKeys vs
  | .view .items _ _ => .error (.kind (.noKey "dict_items"))
  | .view .keys _ _ => .error (.kind (.noKey "dict_keys"))
  | v => used v

/-- All values can be keys of a dictionary. -/
def checkKeys : List Value → Except EvalFault Unit
  | [] => .ok ()
  | v :: rest => do
      checkKey v
      checkKeys rest
end

/-- The value under a key of a dictionary. -/
def valueAt? (entries : List (Value × Value)) (key : Value) : Except EvalFault (Option Value) := do
  checkKey key
  firstEntry (alike key) entries

/-- Sets an entry: in place if the key is there, else at the end. -/
def insertEntry (key v : Value) :
    List (Value × Value) → Except EvalFault (List (Value × Value))
  | [] => .ok [(key, v)]
  | (other, w) :: rest => do
      if ← alike key other then return (other, v) :: rest
      else return (other, w) :: (← insertEntry key v rest)

/-- The dictionary with the given entries, the last value of a repeated key counting. -/
def dictOf (entries : List (Value × Value)) : Except EvalFault Value := do
  let insert (made : List (Value × Value)) (entry : Value × Value) := do
    checkKey entry.1
    insertEntry entry.1 entry.2 made
  return .dict (← entries.foldlM insert [])

/-- Some item is the value, or equal to it. -/
def isAmong (v : Value) : List Value → Except EvalFault Bool
  | [] => .ok false
  | w :: rest => do if ← alike w v then return true else isAmong v rest

/-- Some item of a feed is the value, or equal to it; the items behind it remain.  At most
`fuel` items are drawn. -/
def isDrawn (v : Value) : (fuel : Nat) → Feed → Run Bool
  | 0, _ => return false
  | fuel + 1, feed => do
      match ← Run.next feed with
      | (Option.none, _) => return false
      | (some w, feed) => if ← Run.check (alike w v) then return true else isDrawn v fuel feed

/-- The entry of a dictionary that a pair of a key and a value stands for is there. -/
def isEntry (v : Value) (entries : List (Value × Value)) : Except EvalFault Bool := do
  match v with
  | .tuple [key, v] =>
      match ← valueAt? entries key with
      | some w => alike w v
      | Option.none => return false
  | _ => return false

/-- The value is contained in the container. -/
def isIn (v container : Value) : Run Bool := do
  match container with
  | .dict entries => return (← Run.check (valueAt? entries v)).isSome
  | .view .keys entries _ => return (← Run.check (valueAt? entries v)).isSome
  | .view .items entries _ => Run.check (isEntry v entries)
  | container =>
      match text? container with
      | some t =>
          match text? v with
          | some part => return Text.contains t part
          | Option.none => Run.fail (.kind (.notText v.kindName))
      | Option.none =>
          match ← Run.check container.feed? with
          | some (.items ws) => Run.check (isAmong v ws)
          | some feed => do isDrawn v ((← get).stock + 1) feed
          | Option.none => Run.fail (.kind (.noContainer container.kindName))

end LintScaffold.Template.Value
