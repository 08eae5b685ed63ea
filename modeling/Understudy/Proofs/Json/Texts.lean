import Understudy.Proofs.Json.Literal
import Understudy.Proofs.Json.Numbers

/-!
# Texts are read back

The indented text of a value is read back as this value, with the members of its objects in ascending order of their
names, when it nests no deeper than texts may and each of its numbers is read back from its own text. A value that
nests deeper is not read at all.
-/

namespace Understudy

namespace Json

def Number.Legible (n : Number) : Prop := Written.number? n.text.toList = some (some n, [])

/-- The value nests at most so many levels, and its numbers are read back from their texts. -/
inductive Legible : Nat → Json → Prop where
  | null {depth : Nat} : Legible depth .null
  | bool {depth : Nat} (b : Bool) : Legible depth (.bool b)
  | number {depth : Nat} {n : Number} (h : n.Legible) : Legible depth (.number n)
  | string {depth : Nat} (s : String) : Legible depth (.string s)
  | array {depth : Nat} {items : List Json} (h : ∀ v ∈ items, Legible depth v) :
      Legible (depth + 1) (.array items)
  | object {depth : Nat} {members : List (String × Json)} (h : ∀ m ∈ members, Legible depth m.2) :
      Legible (depth + 1) (.object members)

mutual

/-- The value with the members of all objects in ascending order. -/
def sorted : Json → Json
  | .array items => .array (sortedItems items)
  | .object members => .ofMembers (sortedMembers members)
  | v => v

def sortedItems : List Json → List Json
  | [] => []
  | v :: vs => sorted v :: sortedItems vs

def sortedMembers : List (String × Json) → List (String × Json)
  | [] => []
  | (n, v) :: ms => (n, sorted v) :: sortedMembers ms

end

theorem sortedItems_eq (items : List Json) : sortedItems items = items.map sorted := by
  induction items with
  | nil => rfl
  | cons v items ih => rw [sortedItems, ih, List.map_cons]

theorem sortedMembers_eq (members : List (String × Json)) :
    sortedMembers members = members.map fun m => (m.1, m.2.sorted) := by
  induction members with
  | nil => rfl
  | cons m members ih => rw [sortedMembers, ih, List.map_cons]

theorem Free.sorted_eq {v : Json} (h : Free v) : v.sorted = v := by
  induction h with
  | array _ ih =>
      have hself : sortedItems _ = _ := (sortedItems_eq _).trans (List.map_congr_left (g := id) ih)
      rw [sorted, hself, List.map_id]
  | object order _ ih =>
      have hself : sortedMembers _ = _ := (sortedMembers_eq _).trans
        (List.map_congr_left (g := id) fun m hm => Prod.ext rfl (ih m hm))
      rw [sorted, hself, List.map_id, ofMembers, Ascending.sort_of_ascending order]
  | _ => rfl

namespace Written

theorem ofItems_eq (items : List Json) : ofItems items = items.map ofJson := by
  induction items with
  | nil => rfl
  | cons v items ih => rw [ofItems, ih, List.map_cons]

theorem ofMembers_eq (members : List (String × Json)) :
    ofMembers members = members.map fun m => (m.1, ofJson m.2) := by
  induction members with
  | nil => rfl
  | cons m members ih => rw [ofMembers, ih, List.map_cons]

theorem toItems?_ofItems {depth : Nat} {items : List Json}
    (h : ∀ v ∈ items, toJson? depth (ofJson v) = some v.sorted) :
    toItems? depth (ofItems items) = some (sortedItems items) := by
  induction items with
  | nil => rfl
  | cons v items ih =>
      rw [List.forall_mem_cons] at h
      rw [ofItems, toItems?, h.1, ih h.2, sortedItems]

theorem toMembers?_ofMembers {depth : Nat} {members : List (String × Json)}
    (h : ∀ m ∈ members, toJson? depth (ofJson m.2) = some m.2.sorted) :
    toMembers? depth (ofMembers members) = some (sortedMembers members) := by
  induction members with
  | nil => rfl
  | cons m members ih =>
      rw [List.forall_mem_cons] at h
      rw [ofMembers, toMembers?, h.1, ih h.2, sortedMembers]

/-- What is written as a value stands for this value, sorted. -/
theorem toJson?_ofJson {depth : Nat} {v : Json} (h : Legible depth v) :
    toJson? depth (ofJson v) = some v.sorted := by
  induction h with
  | array _ ih => rw [ofJson, toJson?, toItems?_ofItems ih, sorted, Option.map_some]
  | object _ ih => rw [ofJson, toJson?, toMembers?_ofMembers ih, sorted, Option.map_some]
  | _ => rfl

/-- The text starts with a character that is neither a blank nor a closing bracket. -/
def Opens (cs : List Char) : Prop :=
  ∃ c tail, cs = c :: tail ∧ c ∉ [' ', '\t', '\n', '\r', ']', '\x7d']

theorem skip_cons {c : Char} (h : c ∉ [' ', '\t', '\n', '\r']) (cs : List Char) :
    skip (c :: cs) = c :: cs := by
  simp only [List.mem_cons, List.not_mem_nil, or_false, not_or] at h
  simp [skip, h]

theorem Opens.skip_eq {cs : List Char} (h : Opens cs) : skip cs = cs := by
  obtain ⟨c, tail, rfl, hc⟩ := h
  exact skip_cons (fun hmem => hc (List.mem_append_left _ hmem)) tail

theorem Opens.append {cs : List Char} (h : Opens cs) (rest : List Char) : Opens (cs ++ rest) := by
  obtain ⟨c, tail, rfl, hc⟩ := h
  exact ⟨c, tail ++ rest, rfl, hc⟩

theorem skip_blanks (k : Nat) (cs : List Char) : skip (List.replicate k ' ' ++ cs) = skip cs := by
  induction k with
  | zero => rfl
  | succ k ih =>
      rw [List.replicate_succ]
      exact ih

theorem toList_newline (level : Nat) :
    (newline level).toList = '\n' :: List.replicate (2 * level) ' ' := by
  simp [newline]

theorem skip_newline (level : Nat) (cs : List Char) :
    skip ((newline level).toList ++ cs) = skip cs := by
  rw [toList_newline]
  exact skip_blanks (2 * level) cs

theorem value_newline (fuel level : Nat) (cs : List Char) :
    value fuel ((newline level).toList ++ cs) = value fuel cs := by
  cases fuel with
  | zero => rfl
  | succ fuel => rw [value, value, skip_newline]

theorem value_number {fuel : Nat} {cs rest : List Char} {n : Option Number}
    (h : number? cs = some (n, rest)) : value (fuel + 1) cs = (.number n, rest) := by
  obtain ⟨c, tail, rfl, hc⟩ := exists_cons_of_number? h
  have hne : ∀ d : Char, ¬ (d = '-' ∨ d.isDigit = true) → c ≠ d := by
    rintro d hd rfl
    exact hd hc
  have hskip : skip (c :: tail) = c :: tail := by
    refine skip_cons ?_ tail
    simp only [List.mem_cons, List.not_mem_nil, or_false, not_or]
    exact ⟨hne _ (by decide), hne _ (by decide), hne _ (by decide), hne _ (by decide)⟩
  rw [value, hskip]
  split
  all_goals rename_i heq
  -- all other values start with a character of their own
  any_goals exact absurd (List.cons.inj heq).1 (hne _ (by decide))
  · exact absurd heq (by simp)
  · rw [h]

theorem items_newline (fuel level : Nat) (cs : List Char) :
    items fuel ((newline level).toList ++ cs) = items fuel cs := by
  cases fuel with
  | zero => rfl
  | succ fuel => rw [items, items, value_newline]

theorem members_newline (fuel level : Nat) (cs : List Char) :
    members fuel ((newline level).toList ++ cs) = members fuel cs := by
  cases fuel with
  | zero => rfl
  | succ fuel => rw [members, members, skip_newline]

theorem value_array {fuel level : Nat} {body : List Char} (h : Opens body) :
    value (fuel + 1) ('[' :: ((newline level).toList ++ body)) =
      (.array (items fuel body).1, (items fuel body).2) := by
  rw [value, skip_cons (by decide)]
  simp only
  rw [skip_newline, h.skip_eq]
  obtain ⟨c, tail, rfl, hc⟩ := h
  split
  · rename_i heq
    rw [(List.cons.inj heq).1] at hc
    exact absurd (by decide) hc
  · rfl

theorem value_object {fuel level : Nat} {body : List Char} (h : Opens body) :
    value (fuel + 1) ('\x7b' :: ((newline level).toList ++ body)) =
      (.object (members fuel body).1, (members fuel body).2) := by
  rw [value, skip_cons (by decide)]
  simp only
  rw [skip_newline, h.skip_eq]
  obtain ⟨c, tail, rfl, hc⟩ := h
  split
  · rename_i heq
    rw [(List.cons.inj heq).1] at hc
    exact absurd (by decide) hc
  · rfl

def itemsText (level : Nat) (items : List Json) : List Char :=
  (String.join (prettyItems level items)).toList

def membersText (level : Nat) (members : List (String × Json)) : List Char :=
  (String.join (prettyMembers level members)).toList

theorem itemsText_nil (level : Nat) : itemsText level [] = [] := rfl

theorem membersText_nil (level : Nat) : membersText level [] = [] := rfl

theorem itemsText_cons (level : Nat) (v : Json) (items : List Json) :
    itemsText level (v :: items) =
      ',' :: ((newline level).toList ++ ((prettyAt level v).toList ++ itemsText level items)) := by
  simp [itemsText, prettyItems]

theorem membersText_cons (level : Nat) (n : String) (v : Json) (members : List (String × Json)) :
    membersText level ((n, v) :: members) =
      ',' :: ((newline level).toList ++ ((literal n).toList ++
        ':' :: ' ' :: ((prettyAt level v).toList ++ membersText level members))) := by
  simp [membersText, prettyMembers]

theorem toList_array (level : Nat) (v : Json) (items : List Json) :
    (prettyAt level (.array (v :: items))).toList =
      '[' :: ((newline (level + 1)).toList ++ ((prettyAt (level + 1) v).toList ++
        (itemsText (level + 1) items ++ ((newline level).toList ++ [']'])))) := by
  simp [prettyAt, itemsText]

theorem toList_object (level : Nat) (n : String) (v : Json) (members : List (String × Json)) :
    (prettyAt level (.object ((n, v) :: members))).toList =
      '\x7b' :: ((newline (level + 1)).toList ++ ((literal n).toList ++
        ':' :: ' ' :: ((prettyAt (level + 1) v).toList ++
          (membersText (level + 1) members ++ ((newline level).toList ++ ['\x7d']))))) := by
  simp [prettyAt, membersText]

theorem opens_literal (s : String) : Opens (literal s).toList :=
  ⟨_, _, toList_literal s, by decide⟩

theorem opens_prettyAt {depth : Nat} {v : Json} (h : Legible depth v) (level : Nat) :
    Opens (prettyAt level v).toList := by
  cases h with
  | null => exact ⟨'n', _, by rw [prettyAt]; rfl, by decide⟩
  | bool b =>
      cases b with
      | false => exact ⟨'f', _, by rw [prettyAt]; rfl, by decide⟩
      | true => exact ⟨'t', _, by rw [prettyAt]; rfl, by decide⟩
  | number hn =>
      obtain ⟨c, tail, htext, hc⟩ := exists_cons_of_number? hn
      refine ⟨c, tail, htext, ?_⟩
      simp only [List.mem_cons, List.not_mem_nil, or_false, not_or]
      refine ⟨?_, ?_, ?_, ?_, ?_, ?_⟩ <;>
        · rintro rfl
          exact absurd hc (by decide)
  | string s => exact opens_literal s
  | @array _ items _ =>
      cases items with
      | nil => exact ⟨'[', _, by rw [prettyAt]; rfl, by decide⟩
      | cons v items => exact ⟨'[', _, toList_array level v items, by decide⟩
  | @object _ members _ =>
      cases members with
      | nil => exact ⟨'\x7b', _, by rw [prettyAt]; rfl, by decide⟩
      | cons m members => exact ⟨'\x7b', _, toList_object level m.1 m.2 members, by decide⟩

theorem ofJson_ne_fault (v : Json) : ofJson v ≠ .fault := by
  cases v <;> simp [ofJson]

/-- The value is read back from its text, whatever follows. -/
def ReadsBack (level : Nat) (v : Json) : Prop :=
  ∀ fuel rest, EndsNumber rest → (prettyAt level v).toList.length < fuel →
    value fuel ((prettyAt level v).toList ++ rest) = (ofJson v, rest)

theorem endsNumber_cons {c : Char} (h : c.isDigit = false ∧ c ≠ '.' ∧ c ≠ 'e' ∧ c ≠ 'E')
    (rest : List Char) : EndsNumber (c :: rest) := by
  intro d hd
  obtain rfl := Option.some.inj hd
  exact h

theorem endsNumber_newline (level : Nat) (rest : List Char) :
    EndsNumber ((newline level).toList ++ rest) := by
  rw [toList_newline]
  exact endsNumber_cons (by decide) _

theorem skip_close {c : Char} (h : c ∉ [' ', '\t', '\n', '\r']) (level : Nat) (rest : List Char) :
    skip ((newline level).toList ++ c :: rest) = c :: rest := by
  rw [skip_newline, skip_cons h]

/-- Behind an item the next character tells whether another one follows. -/
theorem items_of_value {fuel : Nat} {cs rest : List Char} {v : Json}
    (h : value fuel cs = (ofJson v, rest)) :
    items (fuel + 1) cs =
      match skip rest with
      | ',' :: more => (ofJson v :: (items fuel more).1, (items fuel more).2)
      | ']' :: more => ([ofJson v], more)
      | _ => ([ofJson v, .fault], []) := by
  rw [items, h]
  split
  · rename_i hfault
    exact absurd (Prod.mk.inj hfault).1 (ofJson_ne_fault v)
  · rename_i heq
    obtain ⟨rfl, rfl⟩ := Prod.mk.inj heq
    rfl

theorem items_text {level last : Nat} {v : Json} {vs : List Json}
    (h : ∀ w ∈ v :: vs, ReadsBack level w) {fuel : Nat}
    (hfuel : (prettyAt level v).toList.length + (itemsText level vs).length < fuel)
    (rest : List Char) :
    items (fuel + 1) ((prettyAt level v).toList ++
      (itemsText level vs ++ ((newline last).toList ++ ']' :: rest))) = (ofItems (v :: vs), rest) := by
  induction vs generalizing v fuel with
  | nil =>
      have hlast := endsNumber_newline last (']' :: rest)
      rw [itemsText_nil, List.nil_append,
        items_of_value (h v List.mem_cons_self fuel _ hlast (by omega)), skip_close (by decide)]
      rfl
  | cons w vs ih =>
      rw [itemsText_cons, List.length_cons, List.length_append, List.length_append] at hfuel
      obtain ⟨fuel, rfl⟩ : ∃ k, fuel = k + 1 := ⟨fuel - 1, by omega⟩
      have hshort : (prettyAt level w).toList.length + (itemsText level vs).length < fuel := by
        omega
      rw [itemsText_cons, List.cons_append, List.append_assoc, List.append_assoc]
      have hcomma (rest : List Char) : EndsNumber (',' :: rest) := endsNumber_cons (by decide) rest
      rw [items_of_value (h v List.mem_cons_self (fuel + 1) _ (hcomma _) (by omega)),
        skip_cons (by decide)]
      simp only [items_newline, ih (fun u hu => h u (List.mem_cons_of_mem v hu)) hshort]
      rfl

theorem value_blank (fuel : Nat) (cs : List Char) : value fuel (' ' :: cs) = value fuel cs := by
  cases fuel with
  | zero => rfl
  | succ fuel =>
      rw [value, value]
      rfl

/-- Behind a member the next character tells whether another one follows. -/
theorem members_of_value {fuel : Nat} {n : String} {cs rest : List Char} {v : Json}
    (h : value fuel cs = (ofJson v, rest)) :
    members (fuel + 1) ((literal n).toList ++ ':' :: ' ' :: cs) =
      match skip rest with
      | ',' :: more => ((n, ofJson v) :: (members fuel more).1, (members fuel more).2)
      | '\x7d' :: more => ([(n, ofJson v)], more)
      | _ => ([(n, ofJson v), ("", .fault)], []) := by
  rw [toList_literal, List.cons_append, List.append_assoc, List.singleton_append, members,
    skip_cons (by decide)]
  simp only [string?_literal]
  rw [skip_cons (by decide)]
  simp only [value_blank, h]
  split
  · rename_i hfault
    exact absurd (Prod.mk.inj hfault).1 (ofJson_ne_fault v)
  · rename_i heq
    obtain ⟨rfl, rfl⟩ := Prod.mk.inj heq
    rfl

theorem members_text {level last : Nat} {m : String × Json} {ms : List (String × Json)}
    (h : ∀ w ∈ m :: ms, ReadsBack level w.2) {fuel : Nat}
    (hfuel : (prettyAt level m.2).toList.length + (membersText level ms).length < fuel)
    (rest : List Char) :
    members (fuel + 1) ((literal m.1).toList ++ ':' :: ' ' :: ((prettyAt level m.2).toList ++
      (membersText level ms ++ ((newline last).toList ++ '\x7d' :: rest)))) =
        (ofMembers (m :: ms), rest) := by
  induction ms generalizing m fuel with
  | nil =>
      have hlast := endsNumber_newline last ('\x7d' :: rest)
      rw [membersText_nil, List.nil_append,
        members_of_value (h m List.mem_cons_self fuel _ hlast (by omega)), skip_close (by decide)]
      rfl
  | cons w ms ih =>
      rw [membersText_cons] at hfuel
      simp only [List.length_cons, List.length_append] at hfuel
      obtain ⟨fuel, rfl⟩ : ∃ k, fuel = k + 1 := ⟨fuel - 1, by omega⟩
      have hshort : (prettyAt level w.2).toList.length + (membersText level ms).length < fuel := by
        omega
      have hcomma (rest : List Char) : EndsNumber (',' :: rest) := endsNumber_cons (by decide) rest
      rw [membersText_cons]
      simp only [List.cons_append, List.append_assoc]
      rw [members_of_value (h m List.mem_cons_self (fuel + 1) _ (hcomma _) (by omega)),
        skip_cons (by decide)]
      simp only [members_newline, ih (fun u hu => h u (List.mem_cons_of_mem m hu)) hshort]
      rfl

/-- The text of a value is read back as it was written. -/
theorem readsBack {depth : Nat} {v : Json} (h : Legible depth v) (level : Nat) :
    ReadsBack level v := by
  induction h generalizing level with
  | null =>
      intro fuel rest hrest hfuel
      obtain ⟨fuel, rfl⟩ := Nat.exists_eq_add_of_lt hfuel
      simp [prettyAt, value, skip, word, ofJson]
  | bool b =>
      intro fuel rest hrest hfuel
      obtain ⟨fuel, rfl⟩ := Nat.exists_eq_add_of_lt hfuel
      cases b <;> simp [prettyAt, value, skip, word, ofJson]
  | number hn =>
      intro fuel rest hrest hfuel
      obtain ⟨fuel, rfl⟩ := Nat.exists_eq_add_of_lt hfuel
      exact value_number (number?_append hrest hn)
  | string s =>
      intro fuel rest hrest hfuel
      obtain ⟨fuel, rfl⟩ := Nat.exists_eq_add_of_lt hfuel
      rw [prettyAt, toList_literal, List.cons_append, List.append_assoc, List.singleton_append, value,
        skip_cons (by decide)]
      simp only [string?_literal]
      rfl
  | @array depth items hitems ih =>
      intro fuel rest hrest hfuel
      cases items with
      | nil =>
          obtain ⟨fuel, rfl⟩ := Nat.exists_eq_add_of_lt hfuel
          simp [prettyAt, value, skip, ofJson, ofItems]
      | cons v vs =>
          rw [toList_array] at hfuel ⊢
          simp only [List.length_cons, List.length_append] at hfuel
          -- the bracket takes one unit of fuel, and the first item another
          obtain ⟨fuel, rfl⟩ : ∃ k, fuel = k + 2 := ⟨fuel - 2, by omega⟩
          have hopens := opens_prettyAt (hitems v List.mem_cons_self) (level + 1)
          simp only [List.cons_append, List.append_assoc, List.nil_append]
          rw [value_array (hopens.append _), items_text (fun w hw => ih w hw (level + 1)) (by omega)]
          rfl
  | @object depth members hmembers ih =>
      intro fuel rest hrest hfuel
      cases members with
      | nil =>
          obtain ⟨fuel, rfl⟩ := Nat.exists_eq_add_of_lt hfuel
          simp [prettyAt, value, skip, ofJson, ofMembers]
      | cons m ms =>
          rw [toList_object] at hfuel ⊢
          simp only [List.length_cons, List.length_append] at hfuel
          obtain ⟨fuel, rfl⟩ : ∃ k, fuel = k + 2 := ⟨fuel - 2, by omega⟩
          simp only [List.cons_append, List.append_assoc, List.nil_append]
          rw [value_object ((opens_literal m.1).append _),
            members_text (fun w hw => ih w hw (level + 1)) (by omega)]
          rfl

end Written

namespace Written

theorem exists_of_toItems? {depth : Nat} {items : List Written} {xs : List Json}
    (h : toItems? depth items = some xs) : ∀ w ∈ items, ∃ x, toJson? depth w = some x := by
  induction items generalizing xs with
  | nil => exact List.forall_mem_nil _
  | cons w items ih =>
      rw [toItems?] at h
      split at h
      · rename_i x rest hx hrest
        exact List.forall_mem_cons.2 ⟨⟨x, hx⟩, ih hrest⟩
      · exact absurd h (by simp)

theorem exists_of_toMembers? {depth : Nat} {members : List (String × Written)}
    {xs : List (String × Json)} (h : toMembers? depth members = some xs) :
    ∀ m ∈ members, ∃ x, toJson? depth m.2 = some x := by
  induction members generalizing xs with
  | nil => exact List.forall_mem_nil _
  | cons m members ih =>
      rw [toMembers?] at h
      split at h
      · rename_i x rest hx hrest
        exact List.forall_mem_cons.2 ⟨⟨x, hx⟩, ih hrest⟩
      · exact absurd h (by simp)

/-- A value that stands for one within some depth nests no deeper. -/
theorem legible_of_toJson? {n depth : Nat} {v : Json} (h : Legible n v) {w : Json}
    (hw : toJson? depth (ofJson v) = some w) : Legible depth v := by
  induction h generalizing depth w with
  | null => exact .null
  | bool b => exact .bool b
  | number hn => exact .number hn
  | string s => exact .string s
  | array _ ih =>
      cases depth with
      | zero => exact absurd hw (by simp [ofJson, toJson?])
      | succ depth =>
          obtain ⟨xs, hxs, -⟩ := Option.map_eq_some_iff.1 hw
          rw [ofItems_eq] at hxs
          refine .array fun v hv => ?_
          obtain ⟨x, hx⟩ := exists_of_toItems? hxs (ofJson v) (List.mem_map_of_mem hv)
          exact ih v hv hx
  | object _ ih =>
      cases depth with
      | zero => exact absurd hw (by simp [ofJson, toJson?])
      | succ depth =>
          obtain ⟨xs, hxs, -⟩ := Option.map_eq_some_iff.1 hw
          rw [ofMembers_eq] at hxs
          refine .object fun m hm => ?_
          obtain ⟨x, hx⟩ := exists_of_toMembers? hxs (m.1, ofJson m.2)
            (List.mem_map_of_mem (f := fun m => (m.1, ofJson m.2)) hm)
          exact ih m hm hx

end Written

/-- The indented text of a value holds the value as it was written, however deep it nests. -/
theorem ofText_pretty {depth : Nat} {v : Json} (h : Legible depth v) :
    Document.ofText v.pretty = ⟨Written.ofJson v, true⟩ := by
  have hread : Written.value (v.pretty.toList.length + 1) v.pretty.toList = (Written.ofJson v, []) := by
    have hempty := Written.readsBack h 0 (v.pretty.toList.length + 1) []
      (by simp [Written.EndsNumber]) (Nat.lt_succ_self _)
    rwa [List.append_nil] at hempty
  unfold Document.ofText
  simp only [hread]
  rfl

/-- The indented text of a value is read as this value, sorted. -/
theorem parse?_pretty {v : Json} (h : Legible maxDepth v) : parse? v.pretty = some v.sorted := by
  rw [parse?, ofText_pretty h]
  exact Written.toJson?_ofJson h

/-- A value whose text is read nests no deeper than texts may. -/
theorem legible_of_parse? {depth : Nat} {v w : Json} (h : Legible depth v)
    (hw : parse? v.pretty = some w) : Legible maxDepth v := by
  rw [parse?, ofText_pretty h] at hw
  exact Written.legible_of_toJson? h hw

theorem legible_array_iff {depth : Nat} {items : List Json} :
    Legible (depth + 1) (.array items) ↔ ∀ v ∈ items, Legible depth v := by
  constructor
  · intro h
    cases h with
    | array h => exact h
  · exact .array

theorem legible_object_iff {depth : Nat} {members : List (String × Json)} :
    Legible (depth + 1) (.object members) ↔ ∀ m ∈ members, Legible depth m.2 := by
  constructor
  · intro h
    cases h with
    | object h => exact h
  · exact .object

end Json

end Understudy
