import LintScaffold.Template.Call
import LintScaffold.Template.Syntax

/-!
# Flaws of expressions

A template is turned into a listing, and some of its expressions cannot be written there:
a slice that does not stand between brackets of its own, and a call in which an argument by
name is given twice.  The flaws of an expression are found in the order in which its parts
are computed; in a choice the condition comes first, and in a call the arguments that
are spread by position come before those with names.

Where one of the names of a call is reserved, its arguments by name are gathered in a
dictionary, and may repeat.
-/

namespace LintScaffold.Template.Listing

/-- The name that no argument may have. -/
def barred : Text := "__debug__".toList

/-- The first flaw of the names of arguments. -/
def nameFlaw? : List Text → Option ListingFault
  | [] => none
  | name :: rest =>
      if name = barred then some (.barredName name)
      else if rest.contains name then some (.repeatedName name)
      else nameFlaw? rest

/-- The flaw of the names of arguments, of which none is reserved. -/
def callFlaw (names : List Text) : List ListingFault :=
  if names.any Arguments.isReserved then [] else (nameFlaw? names).toList

mutual
/-- The flaws of an expression. -/
def flaws {ν : Type} : Expr ν → List ListingFault
  | .name _ => []
  | .const _ => []
  | .lost _ => []
  | .list items => flawsOfAll items
  | .tuple items => flawsOfAll items
  | .dict entries => flawsOfEntries entries
  | .field e _ => flaws e
  | .item e (.slice start stop stride) =>
      flaws e ++ flawsOfOptional start ++ flawsOfOptional stop ++ flawsOfOptional stride
  | .item e index => flaws e ++ flaws index
  | .slice _ _ _ => [.strayPart]
  | .call e args named spread spreadNamed =>
      callFlaw (named.map Prod.fst) ++ flaws e ++ flawsOfAll args ++ flawsOfOptional spread ++
        flawsOfNamed named ++ flawsOfOptional spreadNamed
  | .filter e _ args named spread spreadNamed =>
      callFlaw (named.map Prod.fst) ++ flaws e ++ flawsOfAll args ++ flawsOfOptional spread ++
        flawsOfNamed named ++ flawsOfOptional spreadNamed
  | .test e _ args named spread spreadNamed =>
      callFlaw (named.map Prod.fst) ++ flaws e ++ flawsOfAll args ++ flawsOfOptional spread ++
        flawsOfNamed named ++ flawsOfOptional spreadNamed
  | .sided _ e => flaws e
  | .arithmetic _ left right => flaws left ++ flaws right
  | .compare e operands => flaws e ++ flawsOfOperands operands
  | .concat parts => flawsOfAll parts
  | .both left right => flaws left ++ flaws right
  | .either left right => flaws left ++ flaws right
  | .negate e => flaws e
  | .choice condition yes no _ => flaws condition ++ flaws yes ++ flawsOfOptional no
  | .captured => []

/-- The flaws of expressions. -/
def flawsOfAll {ν : Type} : List (Expr ν) → List ListingFault
  | [] => []
  | e :: rest => flaws e ++ flawsOfAll rest

/-- The flaws of an expression, if there is one. -/
def flawsOfOptional {ν : Type} : Option (Expr ν) → List ListingFault
  | none => []
  | some e => flaws e

/-- The flaws of the keys and values of a dictionary. -/
def flawsOfEntries {ν : Type} : List (Expr ν × Expr ν) → List ListingFault
  | [] => []
  | (key, e) :: rest => flaws key ++ flaws e ++ flawsOfEntries rest

/-- The flaws of arguments by name. -/
def flawsOfNamed {ν : Type} : List (Text × Expr ν) → List ListingFault
  | [] => []
  | (_, e) :: rest => flaws e ++ flawsOfNamed rest

/-- The flaws of the operands of comparisons. -/
def flawsOfOperands {ν : Type} : List (Comparison × Expr ν) → List ListingFault
  | [] => []
  | (_, e) :: rest => flaws e ++ flawsOfOperands rest
end

/-- The flaw by which a listing cannot even be read. -/
def isUnreadable : ListingFault → Bool
  | .strayPart => true
  | .indentation => true
  | _ => false

end LintScaffold.Template.Listing
