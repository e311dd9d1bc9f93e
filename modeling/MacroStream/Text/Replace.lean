/-!
# Finding and replacing a piece of text

`replaceAll` replaces the occurrences of a non-empty piece from left to right, going on behind each
one, so that neither occurrences that overlap an earlier one nor text that was put in are looked at
again.
-/

namespace MacroStream.Text

variable {α : Type} [DecidableEq α]

/-- What follows `piece` when `cs` starts with it. -/
def afterPrefix? : List α → List α → Option (List α)
  | [], cs => some cs
  | _ :: _, [] => none
  | p :: ps, c :: cs => if p = c then afterPrefix? ps cs else none

/-- Whether `piece` occurs in `cs`. -/
def occursIn (piece : List α) : List α → Bool
  | [] => piece.isEmpty
  | c :: cs => (afterPrefix? piece (c :: cs)).isSome || occursIn piece cs

/-- The rest behind a prefix is shorter by the length of the prefix. -/
theorem length_of_afterPrefix? {ps cs rest : List α}
    (h : afterPrefix? ps cs = some rest) : cs.length = ps.length + rest.length := by
  induction ps generalizing cs with
  | nil => simp_all [afterPrefix?]
  | cons p ps ih =>
    cases cs with
    | nil => simp [afterPrefix?] at h
    | cons c cs =>
      simp only [afterPrefix?] at h
      split at h
      · simp [ih h]; omega
      · cases h

/-- `cs` with every occurrence of the non-empty piece `p :: ps` replaced by `new`, left to right. -/
def replaceList (p : α) (ps new : List α) (cs : List α) : List α :=
  match cs with
  | [] => []
  | c :: cs' =>
    match h : afterPrefix? (p :: ps) (c :: cs') with
    | some rest => new ++ replaceList p ps new rest
    | none => c :: replaceList p ps new cs'
termination_by cs.length
decreasing_by
  · have := length_of_afterPrefix? h
    simp only [List.length_cons] at this ⊢
    omega
  · simp

/-- Whether `piece` occurs in `s`. -/
def contains (s piece : String) : Bool :=
  occursIn piece.toList s.toList

/-- `s` with every occurrence of `piece` replaced by `new`; an empty piece occurs nowhere. -/
def replaceAll (s piece new : String) : String :=
  match piece.toList with
  | [] => s
  | p :: ps => String.ofList (replaceList p ps new.toList s.toList)

end MacroStream.Text
