import Understudy.Proofs.Log.Window
import Understudy.Proofs.Time.Calendar

/-!
# Old entries of the request log

A log takes out what is too old at the front, and its entries stand in the order in which they were appended. A request
that took long is appended behind requests that came after it, and its entry stays as long as one of these is young
enough.
-/

namespace Understudy

namespace Instant

variable {a b c now : Instant} {age : Duration}

theorem before_iff :
    a.before b = true ↔ a.seconds < b.seconds ∨ a.seconds = b.seconds ∧ a.nanoseconds < b.nanoseconds := by
  simp [before]

theorem before_of_not_before (h : a.before c = true) (hb : b.before c = false) : a.before b = true := by
  rw [← Bool.not_eq_true, before_iff] at hb
  rw [before_iff] at h ⊢
  omega

/-- The instant is one that a clock shows outside of a leap second. -/
structure IsNow (now : Instant) : Prop where
  year : now.inCalendar = true
  nanoseconds : now.nanoseconds < 1000000000

/-- Nothing in the calendar lies further back than an age that reaches out of it. -/
theorem IsNow.not_before_minus (h : now.IsNow) (hage : 0 ≤ age.nanoseconds)
    (hout : ¬ (now.minus age).inCalendar = true) (ha : a.inCalendar = true) :
    a.before (now.minus age) = false := by
  have hback : (now.minus age).seconds ≤ now.seconds := by
    have hnow := h.nanoseconds
    simp only [minus]
    omega
  have hyear := Date.year_ofDays_mono (Int.ediv_le_ediv (by decide : (0 : Int) < 86400) hback)
  have hnow := h.year
  simp only [inCalendar, hasYear, Bool.and_eq_true, decide_eq_true_eq] at hnow hout ha
  rw [← Bool.not_eq_true]
  intro hbefore
  have hle : a.seconds ≤ (now.minus age).seconds := by
    rw [before_iff] at hbefore
    omega
  have hearly := Date.year_ofDays_mono (Int.ediv_le_ediv (by decide : (0 : Int) < 86400) hle)
  omega

end Instant

namespace RequestLog

variable {capacity : Option Nat} {age : Duration} {log : RequestLog} {calls : List Call}
variable {e : LogEntry} {now : Instant}

theorem expires_eq_isOlder (hlog : log.maxAge = some age) (hin : (now.minus age).inCalendar = true) :
    log.expires now e = e.isOlder age now := by
  simp [expires, cutoff?, hlog, Instant.minus?, hin, LogEntry.isOlder]

theorem mem_dropWhile {p : LogEntry → Bool} {es : List LogEntry} (h : e ∈ es.dropWhile p) :
    p e = false ∨ ∃ f, [f, e].Sublist es ∧ p f = false := by
  cases hes : es.dropWhile p with
  | nil => exact absurd (hes ▸ h) List.not_mem_nil
  | cons f rest =>
      have hf : p f = false := by
        have hhead := List.head?_dropWhile_not p es
        rwa [hes] at hhead
      rw [hes] at h
      rcases List.mem_cons.1 h with rfl | h
      · exact Or.inl hf
      · refine Or.inr ⟨f, ?_, hf⟩
        have hsuffix := List.dropWhile_suffix (l := es) p
        rw [hes] at hsuffix
        exact ((List.singleton_sublist.2 h).cons_cons f).trans hsuffix.sublist

/--
An entry that is given out is young enough, or it stands behind one that was appended earlier although its request came
later.
-/
theorem old_stands_behind_later (hnow : now.IsNow)
    (hage : 0 ≤ age.nanoseconds ∨ (now.minus age).inCalendar = true)
    (he : e ∈ ((run capacity (some age) calls).expire now).entries)
    (hat : e.request.at_.inCalendar = true) :
    e.isOlder age now = false ∨ ∃ f, [f, e].Sublist (appended calls) ∧
      f.isOlder age now = false ∧ e.request.at_.before f.request.at_ = true := by
  by_cases hin : (now.minus age).inCalendar = true
  · -- the cut stops at the first entry that is young enough, and the old ones behind it came before it
    have hexpires : (run capacity (some age) calls).expires now = (·.isOlder age now) :=
      funext fun _ => expires_eq_isOlder (bounds_run capacity (some age) calls).2 hin
    rw [expire_eq, hexpires] at he
    refine (mem_dropWhile he).elim Or.inl ?_
    rintro ⟨f, hsublist, hyoung⟩
    cases hold : e.isOlder age now with
    | false => exact Or.inl rfl
    | true =>
        have hsuffix := entries_run_suffix capacity (some age) calls
        exact Or.inr ⟨f, hsublist.trans hsuffix.sublist, hyoung,
          Instant.before_of_not_before hold hyoung⟩
  · exact Or.inl (hnow.not_before_minus (hage.resolve_right hin) hin hat)

def entryAt (t : Instant) : LogEntry :=
  { guid := default
    request := { (default : Request) with at_ := t }
    response := .ofStatus 200
    resolution := { matched := none, partial_ := none } }

def noon : Instant := ⟨1704196800, 0⟩

def nine : Instant := noon.minus (.ofHours 3)

/-- A request from nine o'clock is answered after one from noon. -/
def slowAnswer : List Call := [.append (entryAt noon) noon, .append (entryAt nine) noon]

theorem slowAnswer_old_stands_behind : noon.IsNow ∧ 0 ≤ (Duration.ofHours 2).nanoseconds ∧
    entryAt nine ∈ ((run none (some (.ofHours 2)) slowAnswer).expire noon).entries ∧
    ((entryAt nine).isOlder (.ofHours 2) noon = false ∨
      ∃ f, [f, entryAt nine].Sublist (appended slowAnswer) ∧
        f.isOlder (.ofHours 2) noon = false ∧ nine.before f.request.at_ = true) :=
  have hnow : noon.IsNow := ⟨rfl, by decide⟩
  have hentry : entryAt nine ∈ ((run none (some (.ofHours 2)) slowAnswer).expire noon).entries :=
    List.mem_cons_of_mem _ List.mem_cons_self
  ⟨hnow, by decide, hentry, old_stands_behind_later hnow (Or.inl (by decide)) hentry rfl⟩

/-- The entry of the request from nine o'clock is given out at noon, although entries stay for two hours. -/
theorem slowAnswer_gives_out_old :
    entryAt nine ∈ ((run none (some (.ofHours 2)) slowAnswer).expire noon).entries ∧
      (entryAt nine).isOlder (.ofHours 2) noon = true :=
  ⟨List.mem_cons_of_mem _ List.mem_cons_self, rfl⟩

end RequestLog

end Understudy
