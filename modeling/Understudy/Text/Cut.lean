/-!
# Cutting texts

A text is cut at the first place where a separator stands (`cutOnce`), at every place (`cutAll`), or
has each leftmost, non-overlapping occurrence of a text put in for another (`replaceEach`). The main
statements say that a cut loses nothing: `cutOnce_eq_some` and `intercalate_cutAtChar`.
-/

namespace Understudy

namespace Text

/-- What follows `front` in the text, when the text starts with it. -/
def dropFront? (front : List Char) : List Char → Option (List Char) :=
  match front with
  | [] => some
  | p :: ps => fun
    | [] => none
    | c :: cs => if p = c then dropFront? ps cs else none

theorem dropFront?_eq_some {front cs rest : List Char} :
    dropFront? front cs = some rest ↔ cs = front ++ rest := by
  induction front generalizing cs with
  | nil => simp [dropFront?]
  | cons p ps ih =>
    cases cs with
    | nil => simp [dropFront?]
    | cons c cs =>
      by_cases h : p = c
      · simp [dropFront?, h, ih]
      · have h' : ¬ c = p := fun e => h e.symm
        simp [dropFront?, h, h']

def cutOnce (sep : List Char) : List Char → Option (List Char × List Char)
  | [] => (dropFront? sep []).map ([], ·)
  | c :: cs =>
    match dropFront? sep (c :: cs) with
    | some rest => some ([], rest)
    | none => (cutOnce sep cs).map fun (a, b) => (c :: a, b)

theorem cutOnce_eq_some {sep cs a b : List Char} (h : cutOnce sep cs = some (a, b)) :
    cs = a ++ sep ++ b := by
  induction cs generalizing a with
  | nil =>
    simp only [cutOnce, Option.map_eq_some_iff, Prod.mk.injEq] at h
    obtain ⟨r, hr, rfl, rfl⟩ := h
    simpa using dropFront?_eq_some.1 hr
  | cons c cs ih =>
    rw [cutOnce] at h
    split at h
    · rename_i rest hr
      obtain ⟨rfl, rfl⟩ : [] = a ∧ rest = b := by simpa using h
      simpa using dropFront?_eq_some.1 hr
    · simp only [Option.map_eq_some_iff, Prod.mk.injEq, Prod.exists] at h
      obtain ⟨a', b', hab, rfl, rfl⟩ := h
      simp [ih hab]

/-- The parts between the places where the character stands: one more than there are places. -/
def cutAtChar (sep : Char) : List Char → List (List Char)
  | [] => [[]]
  | c :: cs =>
    if c = sep then [] :: cutAtChar sep cs
    else match cutAtChar sep cs with
      | [] => [[c]]
      | part :: parts => (c :: part) :: parts

theorem cutAtChar_ne_nil (sep : Char) (cs : List Char) : cutAtChar sep cs ≠ [] := by
  cases cs with
  | nil => simp [cutAtChar]
  | cons c cs =>
    simp only [cutAtChar]
    split
    · simp
    · split <;> simp

/-- Cutting loses nothing: the parts joined by the separator are the text. -/
theorem intercalate_cutAtChar (sep : Char) (cs : List Char) :
    [sep].intercalate (cutAtChar sep cs) = cs := by
  induction cs with
  | nil => simp [cutAtChar, List.intercalate]
  | cons c cs ih =>
    have hne := cutAtChar_ne_nil sep cs
    simp only [cutAtChar]
    split
    · rename_i h
      cases hp : cutAtChar sep cs with
      | nil => exact absurd hp hne
      | cons part parts =>
        rw [hp] at ih
        simp [List.intercalate, List.intersperse, h] at ih ⊢
        exact ih
    · cases hp : cutAtChar sep cs with
      | nil => exact absurd hp hne
      | cons part parts =>
        rw [hp] at ih
        cases parts <;> simp [List.intercalate, List.intersperse] at ih ⊢ <;> exact ih

def split (sep : Char) (s : String) : List String :=
  (cutAtChar sep s.toList).map String.ofList

def splitOnce (sep : String) (s : String) : Option (String × String) :=
  (cutOnce sep.toList s.toList).map fun (a, b) => (String.ofList a, String.ofList b)

/-- The text without `back` at its end, when it ends so. -/
def stripBack? (back : String) (s : String) : Option String :=
  (dropFront? back.toList.reverse s.toList.reverse).map fun rest => String.ofList rest.reverse

def trimEnd (c : Char) (s : String) : String :=
  String.ofList (s.toList.reverse.dropWhile (· == c)).reverse

def contains (part : String) (s : String) : Bool := (cutOnce part.toList s.toList).isSome

/--
The text with `new` at each leftmost place where something stands: `length?` tells from the rest of the text how long it
is. `skip` characters are still covered by the last place.
-/
def replaceWhere (length? : List Char → Option Nat) (new : List Char) : Nat → List Char → List Char
  | _, [] => []
  | skip + 1, _ :: cs => replaceWhere length? new skip cs
  | 0, c :: cs =>
    match length? (c :: cs) with
    | some n => new ++ replaceWhere length? new (n - 1) cs
    | none => c :: replaceWhere length? new 0 cs

/-- Every leftmost, non-overlapping occurrence of a non-empty `old` becomes `new`. -/
def replaceEach (old new : List Char) (cs : List Char) : List Char :=
  replaceWhere (fun rest => (dropFront? old rest).map fun _ => old.length) new 0 cs

def join (sep : String) (parts : List String) : String := String.intercalate sep parts

end Text

end Understudy
