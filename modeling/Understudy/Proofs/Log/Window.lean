import Mathlib.Data.List.DropRight
import Mathlib.Data.List.Induction
import Understudy.Log.Basic

/-!
# The request log is a window

`run` makes calls to a log, one after another, and `appended` lists what was appended since the log was cleared last.
What the log holds is the end of that list (`entries_run_suffix`). `IsWindow` says how much of it: as much as there is
room for, and of this what was not found too old by a call. `Gains` says the same of a single entry that is put behind
those of any log, and there is one way to do so (`gains_iff`).
-/

namespace Understudy

/-- The request of an entry lies further back than an age. -/
def LogEntry.isOlder (e : LogEntry) (age : Duration) (now : Instant) : Bool :=
  e.request.at_.before (now.minus age)

namespace RequestLog

inductive Call where
  | append (e : LogEntry) (now : Instant)
  | entries (now : Instant)
  | size
  | clear

def apply (log : RequestLog) : Call → RequestLog
  | .append e now => log.append e now
  | .entries now => log.expire now
  | .size => log
  | .clear => log.clear

def run (capacity : Option Nat) (maxAge : Option Duration) (calls : List Call) : RequestLog :=
  calls.foldl apply (empty capacity maxAge)

/-- The time at which a call takes out what is too old. -/
def Call.now? : Call → Option Instant
  | .append _ now | .entries now => some now
  | .size | .clear => none

/-- The entries that were appended since a list of entries, or since the log was cleared last. -/
def Call.extend (es : List LogEntry) : Call → List LogEntry
  | .append e _ => es ++ [e]
  | .clear => []
  | .entries _ | .size => es

def appended (calls : List Call) : List LogEntry := calls.foldl Call.extend []

/-- How many of the last entries there is room for. -/
def room (capacity : Option Nat) (total : Nat) : Nat := capacity.elim total (min · total)

variable {capacity : Option Nat} {maxAge : Option Duration} {log : RequestLog} {calls : List Call}
variable {es : List LogEntry} {e : LogEntry} {c : Call} {now : Instant}

@[simp] theorem run_concat (calls : List Call) (c : Call) :
    run capacity maxAge (calls ++ [c]) = (run capacity maxAge calls).apply c := by
  simp [run]

@[simp] theorem appended_concat (calls : List Call) (c : Call) :
    appended (calls ++ [c]) = c.extend (appended calls) := by
  simp [appended]

theorem appended_append {after : List Call} (h : .clear ∉ after) (before : List Call) :
    appended (before ++ after) = appended before ++ appended after := by
  induction after using List.reverseRecOn with
  | nil => exact (congrArg appended (List.append_nil before)).trans (List.append_nil _).symm
  | append_singleton after c ih =>
      rw [List.mem_append, not_or] at h
      rw [← List.append_assoc, appended_concat, appended_concat, ih h.1]
      cases c with
      | append e now => exact List.append_assoc _ _ _
      | entries now => rfl
      | size => rfl
      | clear => exact absurd (List.mem_singleton_self _) h.2

theorem dropWhile_never (es : List LogEntry) : es.dropWhile (fun _ => false) = es :=
  List.dropWhile_eq_self_iff.2 fun _ => Bool.false_ne_true

/-- The entries that a call takes out when it meets them at the front. -/
def expires (log : RequestLog) (now : Instant) (e : LogEntry) : Bool :=
  (log.cutoff? now).any e.request.at_.before

theorem expire_eq (log : RequestLog) (now : Instant) :
    log.expire now = { log with entries := log.entries.dropWhile (log.expires now) } := by
  unfold expire expires
  cases log.cutoff? now with
  | some cutoff => rfl
  | none => simp only [Option.any_none, dropWhile_never]

theorem trim_eq (log : RequestLog) :
    log.trim = { log with entries := log.entries.rtake (room log.capacity log.entries.length) } := by
  obtain ⟨es, capacity, maxAge⟩ := log
  cases capacity with
  | none => simp [trim, room, List.rtake]
  | some n =>
      have hleft : es.length - min n es.length = es.length - n := by omega
      simp [trim, room, List.rtake, hleft]

/-- What is taken out is older than the age of the log. -/
theorem exists_isOlder_of_expires (h : log.expires now e = true) :
    ∃ age ∈ log.maxAge, e.isOlder age now = true := by
  obtain ⟨cutoff, hcutoff, hbefore⟩ := (Option.any_eq_true _ _).1 h
  obtain ⟨age, hage, hminus⟩ := Option.bind_eq_some_iff.1 hcutoff
  refine ⟨age, hage, ?_⟩
  unfold Instant.minus? at hminus
  split at hminus
  · rw [LogEntry.isOlder, Option.some.inj hminus]
    exact hbefore
  · exact nomatch hminus

theorem entries_apply_suffix (log : RequestLog) (c : Call) :
    (log.apply c).entries <:+ c.extend log.entries := by
  cases c with
  | append e now =>
      rw [apply, append, expire_eq, trim_eq]
      exact (List.dropWhile_suffix _).trans (List.drop_suffix _ _)
  | entries now =>
      rw [apply, expire_eq]
      exact List.dropWhile_suffix _
  | size => exact List.suffix_rfl
  | clear => exact List.suffix_rfl

theorem Call.extend_suffix {fs : List LogEntry} (h : es <:+ fs) (c : Call) :
    c.extend es <:+ c.extend fs := by
  cases c with
  | append e now => exact List.suffix_append_self_iff.2 h
  | entries now => exact h
  | size => exact h
  | clear => exact List.suffix_rfl

/-- The entries of a log are the last ones that were appended, in that order. -/
theorem entries_run_suffix (capacity : Option Nat) (maxAge : Option Duration) (calls : List Call) :
    (run capacity maxAge calls).entries <:+ appended calls := by
  induction calls using List.reverseRecOn with
  | nil => exact List.suffix_rfl
  | append_singleton calls c ih =>
      rw [run_concat, appended_concat]
      exact (entries_apply_suffix _ c).trans (c.extend_suffix ih)

theorem bounds_apply (log : RequestLog) (c : Call) :
    (log.apply c).capacity = log.capacity ∧ (log.apply c).maxAge = log.maxAge := by
  cases c with
  | append e now => simp only [apply, append, expire_eq, trim_eq, and_self]
  | entries now => simp only [apply, expire_eq, and_self]
  | size => exact ⟨rfl, rfl⟩
  | clear => exact ⟨rfl, rfl⟩

theorem bounds_run (capacity : Option Nat) (maxAge : Option Duration) (calls : List Call) :
    (run capacity maxAge calls).capacity = capacity ∧ (run capacity maxAge calls).maxAge = maxAge := by
  induction calls using List.reverseRecOn with
  | nil => exact ⟨rfl, rfl⟩
  | append_singleton calls c ih =>
      obtain ⟨hcapacity, hage⟩ := bounds_apply (run capacity maxAge calls) c
      rw [run_concat]
      exact ⟨hcapacity.trans ih.1, hage.trans ih.2⟩

/--
How many of the last entries a log holds after calls. An entry with `n` others appended behind it is held when there are
more than `n` entries in the window.
-/
structure IsWindow (capacity : Option Nat) (maxAge : Option Duration) (calls : List Call)
    (es : List LogEntry) : Prop where
  bounded : ∀ n ∈ capacity, es.length ≤ n
  full : maxAge = none → es = (appended calls).rtake (room capacity (appended calls).length)
  /-- an entry that is missing is none of the last ones, or a call has found it too old -/
  missing : ∀ before e now after, calls = before ++ .append e now :: after → .clear ∉ after →
    es.length ≤ (appended after).length →
      (∃ n ∈ capacity, n ≤ (appended after).length) ∨
        ∃ age ∈ maxAge, ∃ c ∈ .append e now :: after, ∃ t ∈ c.now?, e.isOlder age t = true

theorem room_room (capacity : Option Nat) (total : Nat) :
    room capacity (room capacity total + 1) = room capacity (total + 1) := by
  cases capacity with
  | none => rfl
  | some n =>
      simp only [room, Option.elim_some]
      omega

theorem length_rtake_room (capacity : Option Nat) (es : List LogEntry) :
    (es.rtake (room capacity es.length)).length = room capacity es.length := by
  rw [List.rtake, List.length_drop]
  cases capacity with
  | none => simp [room]
  | some n =>
      simp only [room, Option.elim_some]
      omega

theorem exists_le_of_room_le {total k : Nat} (h : room capacity total ≤ k) (hk : k < total) :
    ∃ n ∈ capacity, n ≤ k := by
  cases capacity with
  | none => exact absurd hk (Nat.not_lt.2 h)
  | some n =>
      refine ⟨n, rfl, ?_⟩
      simp only [room, Option.elim_some] at h
      omega

theorem concat_eq_append_cons {before after : List Call} {d : Call}
    (h : calls ++ [c] = before ++ d :: after) :
    (calls = before ∧ c = d ∧ after = []) ∨
      ∃ rest, calls = before ++ d :: rest ∧ after = rest ++ [c] := by
  rcases List.eq_nil_or_concat' after with rfl | ⟨rest, last, rfl⟩
  · obtain ⟨hcalls, hc⟩ := List.append_inj' h rfl
    exact Or.inl ⟨hcalls, List.head_eq_of_cons_eq hc, rfl⟩
  · rw [← List.cons_append, ← List.append_assoc] at h
    obtain ⟨hcalls, hc⟩ := List.append_inj' h rfl
    exact Or.inr ⟨rest, hcalls, by rw [hc]⟩

theorem of_length_dropWhile_le {p : LogEntry → Bool} {as bs : List LogEntry}
    (h : ((as ++ e :: bs).dropWhile p).length ≤ bs.length) : p e = true := by
  by_contra hp
  -- otherwise the cut stops before `e` at the latest, and more than `bs` is left
  have hsuffix : e :: bs <:+ (as ++ e :: bs).dropWhile p := by
    rw [List.dropWhile_append]
    split
    · simp only [List.dropWhile_cons_of_neg hp, List.suffix_rfl]
    · exact List.suffix_append _ _
  have hlength := hsuffix.length_le
  rw [List.length_cons] at hlength
  omega

namespace IsWindow

theorem nil : IsWindow capacity maxAge [] [] where
  bounded := fun n _ => n.zero_le
  full := fun _ => (List.rtake_nil _).symm
  missing := fun before e now after h => absurd h (by simp)

/-- A call that adds nothing leaves the window as it is, apart from what it finds too old. -/
theorem keep (h : IsWindow capacity maxAge calls es) (hc : ∀ as, c.extend as = as) :
    IsWindow capacity maxAge (calls ++ [c]) es where
  bounded := h.bounded
  full := by
    rw [appended_concat, hc]
    exact h.full
  missing := by
    intro before e now after hcalls hclear hlength
    rcases concat_eq_append_cons hcalls with ⟨-, rfl, -⟩ | ⟨rest, hfront, rfl⟩
    · exact absurd (hc []) (List.cons_ne_nil _ _)
    · rw [List.mem_append, not_or] at hclear
      rw [appended_concat, hc] at hlength ⊢
      refine (h.missing before e now rest hfront hclear.1 hlength).imp_right ?_
      rintro ⟨age, hage, d, hd, hold⟩
      exact ⟨age, hage, d, List.mem_append_left [c] hd, hold⟩

theorem clear (calls : List Call) : IsWindow capacity maxAge (calls ++ [.clear]) [] where
  bounded := fun n _ => n.zero_le
  full := by
    rw [appended_concat]
    exact fun _ => (List.rtake_nil _).symm
  missing := by
    intro before e now after hcalls hclear
    rcases concat_eq_append_cons hcalls with ⟨-, hc, -⟩ | ⟨rest, -, rfl⟩
    · exact nomatch hc
    · exact absurd (List.mem_append_right _ (List.mem_singleton_self _)) hclear

/-- An entry takes the last place, and those at the front go for which there is no room. -/
theorem push (h : IsWindow capacity maxAge calls es) (e : LogEntry) (now : Instant)
    {held : List LogEntry} (hheld : held <:+ appended (calls ++ [.append e now]))
    (hlength : held.length = room capacity (es.length + 1)) :
    IsWindow capacity maxAge (calls ++ [.append e now]) held where
  bounded := by
    rintro n rfl
    rw [hlength]
    exact Nat.min_le_left _ _
  full := by
    intro hnone
    have hes : es.length = room capacity (appended calls).length :=
      (congrArg List.length (h.full hnone)).trans (length_rtake_room capacity _)
    have hwhole := List.suffix_iff_eq_drop.1 hheld
    rw [appended_concat, Call.extend, List.length_append, List.length_singleton] at hwhole
    rw [hlength, hes, room_room] at hwhole
    rwa [appended_concat, Call.extend, List.rtake, List.length_append, List.length_singleton]
  missing := by
    intro before e' now' after hcalls hclear hmissing
    rw [hlength] at hmissing
    rcases concat_eq_append_cons hcalls with ⟨-, -, rfl⟩ | ⟨rest, hfront, rfl⟩
    · exact Or.inl (exists_le_of_room_le hmissing (Nat.succ_pos _))
    · rw [List.mem_append, not_or] at hclear
      rw [appended_concat, Call.extend, List.length_append, List.length_singleton] at hmissing ⊢
      by_cases hshort : es.length ≤ (appended rest).length
      · refine (h.missing before e' now' rest hfront hclear.1 hshort).imp ?_ ?_
        · exact fun ⟨n, hn, hle⟩ => ⟨n, hn, hle.trans (Nat.le_succ _)⟩
        · exact fun ⟨age, hage, d, hd, hold⟩ => ⟨age, hage, d, List.mem_append_left [_] hd, hold⟩
      · exact Or.inl (exists_le_of_room_le hmissing (by omega))

/-- What a call finds too old at the front goes. -/
theorem expire (h : IsWindow capacity maxAge (calls ++ [c]) es)
    (hes : es <:+ appended (calls ++ [c])) (hc : c.now? = some now) {p : LogEntry → Bool}
    (hp : ∀ e, p e = true → ∃ age ∈ maxAge, e.isOlder age now = true) :
    IsWindow capacity maxAge (calls ++ [c]) (es.dropWhile p) where
  bounded := fun n hn => (List.dropWhile_suffix p).length_le.trans (h.bounded n hn)
  full := by
    rintro rfl
    have hnone : p = fun _ => false := by
      funext e
      rw [← Bool.not_eq_true]
      intro he
      obtain ⟨age, hage, -⟩ := hp e he
      exact nomatch hage
    rw [hnone, dropWhile_never]
    exact h.full rfl
  missing := by
    intro before e now' after hcalls hclear hmissing
    -- the entry was missing before, or this call has taken it out
    by_cases hbefore : es.length ≤ (appended after).length
    · exact h.missing before e now' after hcalls hclear hbefore
    · have hwhole : appended (calls ++ [c]) = appended before ++ e :: appended after := by
        rw [hcalls, ← List.singleton_append, appended_append (by simpa using hclear),
          appended_append hclear]
        rfl
      have hback : e :: appended after <:+ es := by
        refine List.suffix_of_suffix_length_le ?_ hes (by rw [List.length_cons]; omega)
        rw [hwhole]
        exact List.suffix_append _ _
      obtain ⟨front, rfl⟩ := hback
      obtain ⟨age, hage, hold⟩ := hp e (of_length_dropWhile_le hmissing)
      refine Or.inr ⟨age, hage, c, ?_, now, hc, hold⟩
      rcases concat_eq_append_cons hcalls with ⟨-, rfl, -⟩ | ⟨rest, -, rfl⟩
      · exact List.mem_cons_self
      · exact List.mem_append_right (.append e now' :: rest) (List.mem_singleton_self c)

end IsWindow

/-- What a log holds is a window on what was appended, whatever calls are made to it. -/
theorem run_isWindow (capacity : Option Nat) (maxAge : Option Duration) (calls : List Call) :
    (run capacity maxAge calls).entries <:+ appended calls ∧
      IsWindow capacity maxAge calls (run capacity maxAge calls).entries := by
  refine ⟨entries_run_suffix capacity maxAge calls, ?_⟩
  induction calls using List.reverseRecOn with
  | nil => exact .nil
  | append_singleton calls c ih =>
      have hentries := c.extend_suffix (entries_run_suffix capacity maxAge calls)
      rw [← appended_concat] at hentries
      obtain ⟨hcapacity, hage⟩ := bounds_run capacity maxAge calls
      have hexpires {log : RequestLog} (hlog : log.maxAge = maxAge) (now : Instant) (e : LogEntry)
          (he : log.expires now e = true) : ∃ age ∈ maxAge, e.isOlder age now = true :=
        hlog ▸ exists_isOlder_of_expires he
      rw [run_concat]
      cases c with
      | append e now =>
          rw [apply, append, expire_eq, trim_eq, hcapacity]
          have hheld := fun n => (List.drop_suffix n _).trans hentries
          refine (ih.push e now (hheld _) ?_).expire (hheld _) rfl (hexpires hage now)
          exact (length_rtake_room capacity _).trans (congrArg _ List.length_append)
      | entries now =>
          rw [apply, expire_eq]
          exact (ih.keep fun _ => rfl).expire hentries rfl (hexpires hage now)
      | size => exact ih.keep fun _ => rfl
      | clear => exact .clear calls

/--
One more entry stands at the end of a log. What is gone stood at the front: entries for which there is no room, and then
those that are too old.
-/
structure Gains (log : RequestLog) (e : LogEntry) (now : Instant) (after : RequestLog) : Prop where
  capacity : after.capacity = log.capacity
  maxAge : after.maxAge = log.maxAge
  /-- the entry comes last, behind those that were there -/
  suffix : after.entries <:+ log.entries ++ [e]
  bounded : ∀ n ∈ log.capacity, after.entries.length ≤ n
  young : ∀ d ∈ after.entries.head?, log.expires now d = false
  /-- an entry that is missing has as many behind it as there is room for, or it is too old -/
  missing : ∀ front d back, log.entries ++ [e] = front ++ d :: back →
    after.entries.length ≤ back.length →
      (∃ n ∈ log.capacity, n ≤ back.length) ∨ log.expires now d = true

theorem entries_append (log : RequestLog) (e : LogEntry) (now : Instant) :
    (log.append e now).entries = ((log.entries ++ [e]).rtake
      (room log.capacity (log.entries ++ [e]).length)).dropWhile (log.expires now) := by
  rw [append, expire_eq, trim_eq]
  rfl

theorem gains_append (log : RequestLog) (e : LogEntry) (now : Instant) :
    log.Gains e now (log.append e now) := by
  obtain ⟨hcapacity, hage⟩ := bounds_apply log (.append e now)
  have hlength := length_rtake_room log.capacity (log.entries ++ [e])
  refine ⟨hcapacity, hage, entries_apply_suffix log (.append e now), ?_, ?_, ?_⟩
  · intro n hn
    rw [entries_append]
    refine (List.dropWhile_suffix _).length_le.trans ?_
    rw [hlength, hn]
    exact Nat.min_le_left _ _
  · intro d hd
    have hfirst := List.head?_dropWhile_not (log.expires now)
      ((log.entries ++ [e]).rtake (room log.capacity (log.entries ++ [e]).length))
    rwa [← entries_append, hd] at hfirst
  · intro front d back hwhole hmissing
    rw [entries_append] at hmissing
    -- there was no room for the entry, or it was there and found too old
    by_cases hshort : room log.capacity (log.entries ++ [e]).length ≤ back.length
    · refine Or.inl (exists_le_of_room_le hshort ?_)
      rw [hwhole, List.length_append, List.length_cons]
      omega
    · obtain ⟨held, hheld⟩ : d :: back <:+
          (log.entries ++ [e]).rtake (room log.capacity (log.entries ++ [e]).length) := by
        refine List.suffix_of_suffix_length_le ?_ (List.drop_suffix _ _) ?_
        · rw [hwhole]
          exact List.suffix_append _ _
        · rw [hlength, List.length_cons]
          omega
      rw [← hheld] at hmissing
      exact Or.inr (of_length_dropWhile_le hmissing)

variable {after other : RequestLog}

theorem Gains.length_le (h : log.Gains e now after) (hother : log.Gains e now other) :
    other.entries.length ≤ after.entries.length := by
  by_contra hshort
  cases hentries : other.entries with
  | nil => simp [hentries] at hshort
  | cons d back =>
      -- the entry at the front of the longer one is missing in the other without a reason
      obtain ⟨front, hfront⟩ := hother.suffix
      rw [hentries] at hfront
      rw [hentries, List.length_cons] at hshort
      rcases h.missing front d back hfront.symm (by omega) with ⟨n, hn, hroom⟩ | hold
      · have hbounded := hother.bounded n hn
        rw [hentries, List.length_cons] at hbounded
        omega
      · rw [hother.young d (by rw [hentries]; rfl)] at hold
        exact Bool.false_ne_true hold

/-- A log that has room, and lets no entry grow too old, keeps all of them. -/
theorem Gains.entries_eq (h : log.Gains e now after) (hage : log.maxAge = none)
    (hroom : ∀ n ∈ log.capacity, log.entries.length < n) : after.entries = log.entries ++ [e] := by
  refine h.suffix.eq_of_length_le ?_
  by_contra hshort
  -- otherwise the first entry is missing without a reason
  obtain ⟨d, back, hwhole⟩ := List.exists_cons_of_ne_nil (List.append_ne_nil_of_right_ne_nil log.entries (List.cons_ne_nil e []))
  have hlength := congrArg List.length hwhole
  rw [List.length_append, List.length_singleton, List.length_cons] at hlength
  rw [hwhole, List.length_cons] at hshort
  rcases h.missing [] d back hwhole (by omega) with ⟨n, hn, hfull⟩ | hold
  · have hfree := hroom n hn
    omega
  · obtain ⟨age, hage', -⟩ := exists_isOlder_of_expires hold
    rw [hage] at hage'
    exact nomatch hage'

theorem gains_iff : log.Gains e now after ↔ after = log.append e now := by
  refine ⟨fun h => ?_, fun h => h ▸ gains_append log e now⟩
  have hother := gains_append log e now
  have hlength := Nat.le_antisymm (hother.length_le h) (h.length_le hother)
  have hentries : after.entries = (log.append e now).entries :=
    (List.suffix_of_suffix_length_le h.suffix hother.suffix hlength.le).eq_of_length hlength
  obtain ⟨es, capacity, maxAge⟩ := after
  rw [RequestLog.mk.injEq]
  exact ⟨hentries, h.capacity.trans hother.capacity.symm, h.maxAge.trans hother.maxAge.symm⟩

end RequestLog

end Understudy
