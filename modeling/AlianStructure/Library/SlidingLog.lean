import Mathlib.Algebra.Order.Group.Defs
import Mathlib.Algebra.Order.Sub.Basic
import Mathlib.Data.List.Induction
import Mathlib.Order.Interval.Set.OrdConnected

/-!
# A sliding log of admitted requests

A request is admitted while fewer than `limit` admitted requests are younger
than `window`; the log keeps exactly those. The log drops an entry when it is
one whole window old, so the bound below holds for every stretch of time in
which any two points lie less than a window apart, half-open on either side.
-/
namespace AlianStructure.Library.SlidingLog

variable {K : Type} [AddCommGroup K] [LinearOrder K]

/-- The entries still counted at `now`. -/
def recent (window : K) (log : List K) (now : K) : List K :=
  log.filter fun ts => decide (now - window < ts)

/-- The decision of one request and the log it leaves. -/
def screen (limit : Nat) (window : K) (log : List K) (now : K) : Bool × List K :=
  let entries := recent window log now
  if entries.length < limit then (true, entries ++ [now]) else (false, entries)

/-- The times of the admitted requests of a history, in order. -/
def admitted (limit : Nat) (window : K) : List K → List K → List K
  | _, [] => []
  | log, now :: rest =>
      let answer := screen limit window log now
      if answer.1 then now :: admitted limit window answer.2 rest
      else admitted limit window answer.2 rest

variable {window : K} {log : List K}

theorem mem_recent {now ts : K} : ts ∈ recent window log now ↔ ts ∈ log ∧ now - window < ts := by
  simp [recent]

variable {limit : Nat}

/-- The log after a request holds nothing newer than that request. -/
theorem screen_le {now ts : K} (old : ∀ entry ∈ log, entry ≤ now) (member : ts ∈ (screen limit window log now).2) :
    ts ≤ now := by
  unfold screen at member
  dsimp only at member
  split at member
  · rcases List.mem_append.mp member with kept | new
    · exact old ts (mem_recent.mp kept).1
    · exact (List.mem_singleton.mp new).le
  · exact old ts (mem_recent.mp member).1

/-- Admitted requests are requests of the history. -/
theorem admitted_subset (limit : Nat) (window : K) :
    ∀ (times log : List K), ∀ ts ∈ admitted limit window log times, ts ∈ times
  | [], _, ts, member => by simp [admitted] at member
  | now :: rest, log, ts, member => by
    unfold admitted at member
    dsimp only at member
    split at member
    · rcases List.mem_cons.mp member with rfl | later
      · exact List.mem_cons_self
      · exact List.mem_cons_of_mem _ (admitted_subset limit window rest _ ts later)
    · exact List.mem_cons_of_mem _ (admitted_subset limit window rest _ ts member)

/-- The log that a history leaves. -/
def logAfter (limit : Nat) (window : K) (times : List K) : List K :=
  times.foldl (fun log now => (screen limit window log now).2) []

theorem screen_length_le {now : K} (full : log.length ≤ limit) : (screen limit window log now).2.length ≤ limit := by
  have kept : (recent window log now).length ≤ log.length := List.length_filter_le _ _
  unfold screen
  dsimp only
  split
  next room =>
    rw [List.length_append, List.length_singleton]
    exact room
  next => exact kept.trans full

theorem screen_sorted {now : K} (sorted : log.Pairwise (· ≤ ·)) (old : ∀ entry ∈ log, entry ≤ now) :
    (screen limit window log now).2.Pairwise (· ≤ ·) := by
  have kept : (recent window log now).Pairwise (· ≤ ·) := sorted.filter _
  unfold screen
  dsimp only
  split
  next =>
    refine List.pairwise_append.mpr ⟨kept, List.pairwise_singleton _ _, fun entry member last isLast => ?_⟩
    rw [List.mem_singleton.mp isLast]
    exact old entry (mem_recent.mp member).1
  next => exact kept

/-- The log of a history is in order, within the limit, and holds nothing newer than its last request. -/
theorem logAfter_log (limit : Nat) (window : K) {times : List K} {now : K}
    (sorted : (times ++ [now]).Pairwise (· ≤ ·)) :
    (logAfter limit window times).length ≤ limit ∧ (logAfter limit window times).Pairwise (· ≤ ·) ∧
      ∀ entry ∈ logAfter limit window times, entry ≤ now := by
  induction times using List.reverseRecOn generalizing now with
  | nil => exact ⟨Nat.zero_le _, List.Pairwise.nil, fun entry member => by cases member⟩
  | append_singleton times last ih =>
    obtain ⟨earlier, _, later⟩ := List.pairwise_append.mp sorted
    obtain ⟨full, order, old⟩ := ih earlier
    have before : last ≤ now := later last (by simp) now (by simp)
    unfold logAfter at full order old ⊢
    rw [List.foldl_append]
    exact ⟨screen_length_le full, screen_sorted order old, fun entry member => (screen_le old member).trans before⟩

/-- A denied request leaves the log as it was pruned. -/
theorem screen_denied {now : K} (denied : (screen limit window log now).1 = false) :
    (screen limit window log now).2 = recent window log now ∧ limit ≤ (recent window log now).length := by
  unfold screen at denied ⊢
  dsimp only at denied ⊢
  split at denied
  next => cases denied
  next room =>
    rw [if_neg room]
    exact ⟨rfl, Nat.not_lt.mp room⟩

/-- After a denied request, one that comes when the oldest entry has left the window is admitted. -/
theorem screen_waited [IsOrderedAddMonoid K] {log rest : List K} {now later oldest : K} (full : log.length ≤ limit)
    (denied : (screen limit window log now).1 = false) (entries : recent window log now = oldest :: rest)
    (waited : oldest + window ≤ later) : (screen limit window (screen limit window log now).2 later).1 = true :=
    by
  have gone : ¬ later - window < oldest := not_lt.mpr (le_sub_iff_add_le.mpr waited)
  have bounded : rest.length < limit := by
    have kept : (recent window log now).length ≤ log.length := List.length_filter_le _ _
    rw [entries, List.length_cons] at kept
    omega
  rw [(screen_denied denied).1, entries]
  have fewer : (recent window (oldest :: rest) later).length ≤ rest.length := by
    unfold recent
    rw [List.filter_cons_of_neg (by simpa using gone)]
    exact List.length_filter_le _ _
  unfold screen
  dsimp only
  rw [if_pos (Nat.lt_of_le_of_lt fewer bounded)]

/-- One that comes earlier is denied as well. -/
theorem screen_early [IsOrderedAddMonoid K] {log rest : List K} {now later oldest : K}
    (sorted : log.Pairwise (· ≤ ·)) (denied : (screen limit window log now).1 = false)
    (entries : recent window log now = oldest :: rest) (early : later < oldest + window) :
    (screen limit window (screen limit window log now).2 later).1 = false := by
  obtain ⟨left, full⟩ := screen_denied denied
  have order : (oldest :: rest).Pairwise (· ≤ ·) := by
    rw [← entries]
    exact sorted.filter _
  have young : later - window < oldest := sub_lt_iff_lt_add.mpr early
  have all : recent window (oldest :: rest) later = oldest :: rest := by
    unfold recent
    rw [List.filter_eq_self]
    intro entry member
    rcases List.mem_cons.mp member with rfl | other
    · exact decide_eq_true young
    · exact decide_eq_true (young.trans_le ((List.pairwise_cons.mp order).1 entry other))
  rw [left, entries]
  rw [entries] at full
  unfold screen
  dsimp only
  rw [all, if_neg (Nat.not_lt.mpr full)]

section Window
variable (stretch : Set K) [DecidablePred (· ∈ stretch)]

/-- How many of the given times fall into a stretch of time. -/
def within (times : List K) : Nat := times.countP (· ∈ stretch)

/-- What one request contributes to a stretch. -/
def counted (limit : Nat) (window : K) (log : List K) (now : K) : Nat :=
  if (screen limit window log now).1 ∧ now ∈ stretch then 1 else 0

variable {stretch}

omit [AddCommGroup K] [LinearOrder K] in
theorem within_eq_zero {times : List K} (outside : ∀ ts ∈ times, ts ∉ stretch) : within stretch times = 0 := by
  unfold within
  rw [List.countP_eq_zero]
  simpa using outside

theorem within_admitted_cons (limit : Nat) (window : K) (log : List K) (now : K) (rest : List K) :
    within stretch (admitted limit window log (now :: rest)) = counted stretch limit window log now +
        within stretch (admitted limit window (screen limit window log now).2 rest) := by
  simp only [admitted, counted, within]
  cases (screen limit window log now).1
  · simp
  · simp [List.countP_cons, Nat.add_comm]

theorem within_screened (limit : Nat) (window : K) (log : List K) (now : K) :
    within stretch (screen limit window log now).2 =
      within stretch (recent window log now) + counted stretch limit window log now := by
  unfold counted screen within
  dsimp only
  split <;> simp [List.countP_cons]

/-- A request is counted only when the pruned log had room for it. -/
theorem counted_room (limit : Nat) (window : K) (log : List K) (now : K)
    (bounded : within stretch (recent window log now) ≤ limit) :
    within stretch (recent window log now) + counted stretch limit window log now ≤ limit := by
  have fits : within stretch (recent window log now) ≤ (recent window log now).length :=
    List.countP_le_length
  unfold counted screen
  dsimp only
  split_ifs <;> simp_all
  omega

/-- Inside a stretch shorter than the window, pruning loses nothing. -/
theorem within_recent {now : K} (old : ∀ ts ∈ log, ts ∈ stretch → now - window < ts) :
    within stretch (recent window log now) = within stretch log := by
  unfold within recent
  rw [List.countP_filter]
  apply List.countP_congr
  intro ts member
  simp only [Bool.and_eq_true, decide_eq_true_eq]
  exact ⟨fun h => h.1, fun h => ⟨h, old ts member h⟩⟩

/-- The log together with everything admitted later stays within the limit: the
induction is on the history, and the log carries the part already behind it. -/
theorem within_log_admitted_le (connected : stretch.OrdConnected) (limit : Nat)
    (short : ∀ a ∈ stretch, ∀ b ∈ stretch, b - window < a) :
    ∀ (times log : List K), times.Pairwise (· ≤ ·) →
      (∀ ts ∈ log, ∀ now ∈ times, ts ≤ now) → within stretch log ≤ limit →
      within stretch log + within stretch (admitted limit window log times) ≤ limit
  | [], log, _, _, bounded => by simpa [admitted, within] using bounded
  | now :: rest, log, sorted, old, bounded => by
    obtain ⟨head, tail⟩ := List.pairwise_cons.mp sorted
    have old_now : ∀ ts ∈ log, ts ≤ now := fun ts member => old ts member now (by simp)
    have old_rest : ∀ ts ∈ (screen limit window log now).2, ∀ later ∈ rest, ts ≤ later :=
      fun ts member later h => (screen_le old_now member).trans (head later h)
    have ih := within_log_admitted_le connected limit short rest (screen limit window log now).2
      tail old_rest
    rw [within_screened] at ih
    rw [within_admitted_cons]
    by_cases inside : now ∈ stretch
    · -- The request lies in the stretch: the pruned log still holds all of it.
      have kept := within_recent (fun ts (_ : ts ∈ log) member => short ts member now inside)
      have room := counted_room limit window log now (kept.le.trans bounded)
      have := ih room
      omega
    · have skipped : counted stretch limit window log now = 0 := by simp [counted, inside]
      by_cases before : ∃ ts ∈ log, ts ∈ stretch
      · -- The stretch has begun and the request is past it, so nothing later counts.
        obtain ⟨ts, member, early⟩ := before
        have none_left : within stretch
            (admitted limit window (screen limit window log now).2 rest) = 0 := by
          apply within_eq_zero
          intro later h late
          have later_le := head later (admitted_subset limit window _ _ later h)
          exact inside (connected.out early late ⟨old_now ts member, later_le⟩)
        omega
      · have empty : within stretch log = 0 :=
          within_eq_zero fun ts member h => before ⟨ts, member, h⟩
        have pruned : within stretch (recent window log now) = 0 :=
          within_eq_zero fun ts member h => before ⟨ts, (mem_recent.mp member).1, h⟩
        have := ih (by omega)
        omega

/-- Window bound: at most `limit` admitted requests lie in any stretch of time
whose points are less than one window apart. -/
theorem within_admitted_le (connected : stretch.OrdConnected) (limit : Nat)
    (short : ∀ a ∈ stretch, ∀ b ∈ stretch, b - window < a) {times : List K} (sorted : times.Pairwise (· ≤ ·)) :
    within stretch (admitted limit window [] times) ≤ limit := by
  have bound := within_log_admitted_le connected limit short times [] sorted
    (by simp) (by simp [within])
  simpa [within] using bound

end Window

end AlianStructure.Library.SlidingLog
