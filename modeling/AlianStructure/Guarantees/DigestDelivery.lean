import AlianStructure.Guarantees.AlertLimits

/-!
# The delivery of digests

Source: src/growth/alerts/services/alert-dispatcher.service.ts:125-169. A flush shares the payloads of
its entry with the digest, counts them at its beginning and removes the entry at its end. It loses
nothing when no payload of its user comes meanwhile, and no other flush of it.
-/
namespace AlianStructure.Guarantees.DigestDelivery
open Library.AsyncMethod Library.Interleaving Library.CallsInTurn Library.OwnedParts
open Library.InsertionOrder
open Source Source.Alerts AlertDispatcherService AlertCalls
open AlertLimits (sampleHost samplePayload sampleClock)

/-- A payload, by its entry and its place there, was in a digest that was handed over for a channel. -/
def Delivered (history : AlertHistory) (entry place : Nat) (channel : String) (digest : Nat) : Prop :=
  ∃ handed ∈ history.handed, handed.digest = digest ∧ handed.entry = entry ∧
    handed.channel = channel ∧ place < handed.alerts

/-- Every payload that was buffered was in exactly one digest handed over for each channel of its entry,
or is still in the buffer; and each digest had the count of its alerts. -/
structure NothingLost (mem : AlertMemory) : Prop where
  payloads : ∀ (entry : Nat) digest place, mem.digests[entry]? = some digest →
    place < digest.payloads.length →
      (∀ channel ∈ digest.channels, ∃ number, Delivered mem.history entry place channel number ∧
        ∀ other, Delivered mem.history entry place channel other → other = number) ∨
      mem.digestMap.get? digest.userId = some entry
  counts : ∀ handed ∈ mem.history.handed, handed.count = handed.alerts

/-- The flush that a call is in: its digest, with the channels that are left. -/
structure Flush where
  userId : String
  digest : Nat
  entry : Nat
  count : Nat
  left : List String

/-- A digest was handed over for all channels but those left, with all payloads of the entry. -/
structure Handed (mem : AlertMemory) (entry digest : Nat) (left : List String) : Prop where
  whole : ∀ handed ∈ mem.history.handed, handed.entry = entry →
    handed.digest = digest ∧ handed.alerts = (payloadsOf mem entry).length
  reached : ∀ object, mem.digests[entry]? = some object → ∀ channel ∈ object.channels,
    channel ∈ left ∨ ∃ handed ∈ mem.history.handed, handed.entry = entry ∧ handed.channel = channel

/-- The entry of a flush is the one of its user. -/
structure Active (mem : AlertMemory) (flush : Flush) : Prop where
  flushing : flush.userId ∈ mem.history.flushing
  mapped : mem.digestMap.get? flush.userId = some flush.entry
  counted : flush.count = (payloadsOf mem flush.entry).length
  handed : Handed mem flush.entry flush.digest flush.left

/-- The entries of the map, those being flushed and those that are gone. -/
structure Tidy (mem : AlertMemory) (own : Nat → Option Flush) : Prop where
  named : ∀ userId entry, mem.digestMap.get? userId = some entry →
    ∃ object, mem.digests[entry]? = some object ∧ object.userId = userId
  active : ∀ i flush, own i = some flush → Active mem flush
  alone : ∀ i j first second, own i = some first → own j = some second →
    first.userId = second.userId → i = j
  once : mem.history.flushing.Nodup
  owned : ∀ userId ∈ mem.history.flushing, ∃ i flush, own i = some flush ∧ flush.userId = userId
  untouched : ∀ userId entry, mem.digestMap.get? userId = some entry →
    userId ∉ mem.history.flushing → ∀ handed ∈ mem.history.handed, handed.entry ≠ entry
  gone : ∀ (entry : Nat) object, mem.digests[entry]? = some object →
    mem.digestMap.get? object.userId = some entry ∨ ∃ digest, Handed mem entry digest []
  known : ∀ handed ∈ mem.history.handed, handed.entry < mem.digests.length
  counts : ∀ handed ∈ mem.history.handed, handed.count = handed.alerts

variable {own : Nat → Option Flush}

theorem Tidy.nothingLost {mem : AlertMemory} (tidy : Tidy mem own) : NothingLost mem where
  payloads entry object place found inside := by
    rcases tidy.gone entry object found with mapped | ⟨digest, handed⟩
    · exact Or.inr mapped
    · have length : (payloadsOf mem entry).length = object.payloads.length := by
        unfold payloadsOf
        rw [found]
      refine Or.inl fun channel isChannel => ⟨digest, ?_, ?_⟩
      · rcases handed.reached object found channel isChannel with left | ⟨given, member, same, isOver⟩
        · cases left
        · obtain ⟨isDigest, alerts⟩ := handed.whole given member same
          exact ⟨given, member, isDigest, same, isOver, by rw [alerts, length]; exact inside⟩
      · rintro other ⟨given, member, rfl, same, _, _⟩
        exact (handed.whole given member same).1
  counts := tidy.counts

section Steps
variable {mem after : AlertMemory} {own : Nat → Option Flush} {i : Nat} {userId : String}
  {flush : Flush}

theorem meanwhile_quiet {history : AlertHistory} (quiet : userId ∉ history.flushing) :
    meanwhile userId history = history := if_neg quiet

/-- A change that no digest sees. -/
structure Unseen (mem after : AlertMemory) : Prop where
  digestMap : after.digestMap = mem.digestMap
  digests : after.digests = mem.digests
  handed : after.history.handed = mem.history.handed
  flushing : after.history.flushing = mem.history.flushing
  overlapped : after.history.overlapped = mem.history.overlapped

theorem Handed.congr {entry digest : Nat} {left : List String} (handed : Handed mem entry digest left)
    (same : after.history.handed = mem.history.handed)
    (object : after.digests[entry]? = mem.digests[entry]?) : Handed after entry digest left := by
  have payloads : payloadsOf after entry = payloadsOf mem entry := by
    unfold payloadsOf
    rw [object]
  refine ⟨?_, ?_⟩
  · rw [same, payloads]
    exact handed.whole
  · rw [same, object]
    exact handed.reached

theorem Active.congr (active : Active mem flush) (handed : after.history.handed = mem.history.handed)
    (object : after.digests[flush.entry]? = mem.digests[flush.entry]?)
    (flushing : flush.userId ∈ after.history.flushing)
    (mapped : after.digestMap.get? flush.userId = some flush.entry) : Active after flush := by
  refine ⟨flushing, mapped, ?_, active.handed.congr handed object⟩
  have payloads : payloadsOf after flush.entry = payloadsOf mem flush.entry := by
    unfold payloadsOf
    rw [object]
  rw [payloads]
  exact active.counted

theorem Tidy.unseen (tidy : Tidy mem own) (unseen : Unseen mem after) : Tidy after own := by
  obtain ⟨digestMap, digests, handed, flushing, _⟩ := unseen
  refine ⟨?_, fun i flush isFlush => ?_, tidy.alone, ?_, ?_, ?_, fun entry object found => ?_, ?_, ?_⟩
  · rw [digestMap, digests]
    exact tidy.named
  · have active := tidy.active i flush isFlush
    refine active.congr handed (by rw [digests]) ?_ ?_
    · rw [flushing]
      exact active.flushing
    · rw [digestMap]
      exact active.mapped
  · rw [flushing]
    exact tidy.once
  · rw [flushing]
    exact tidy.owned
  · rw [digestMap, flushing, handed]
    exact tidy.untouched
  · rw [digests] at found
    rw [digestMap]
    exact (tidy.gone entry object found).imp_right fun ⟨digest, gone⟩ =>
      ⟨digest, gone.congr handed (by rw [digests])⟩
  · rw [handed, digests]
    exact tidy.known
  · rw [handed]
    exact tidy.counts

theorem Tidy.apart (tidy : Tidy mem own) {other : String} {entry : Nat}
    (first : mem.digestMap.get? userId = some entry) (second : mem.digestMap.get? other = some entry) :
    userId = other := by
  obtain ⟨one, found, rfl⟩ := tidy.named userId entry first
  obtain ⟨two, isFound, rfl⟩ := tidy.named other entry second
  rw [found] at isFound
  cases isFound
  rfl

/-- The entry of a user who is not being flushed is new or gets another payload. -/
theorem Tidy.grow (tidy : Tidy mem own) {entry : Nat} (quiet : userId ∉ mem.history.flushing)
    (history : after.history = mem.history) (length : mem.digests.length ≤ after.digests.length)
    (others : ∀ place, place ≠ entry → after.digests[place]? = mem.digests[place]?)
    (map : ∀ other, after.digestMap.get? other = if other = userId then some entry else mem.digestMap.get? other)
    (named : ∃ object, after.digests[entry]? = some object ∧ object.userId = userId)
    (fresh : ∀ handed ∈ mem.history.handed, handed.entry ≠ entry)
    (mine : ∀ other, mem.digestMap.get? other = some entry → other = userId)
    (before : ∀ place, mem.digestMap.get? userId = some place → place = entry) : Tidy after own := by
  refine ⟨fun other place mapped => ?_, fun i flush isFlush => ?_, tidy.alone, ?_, ?_,
    fun other place mapped => ?_, fun place object found => ?_, ?_, ?_⟩
  · rw [map] at mapped
    split at mapped
    next same =>
      cases mapped
      exact same ▸ named
    next differs =>
      rw [others place fun same => differs (mine other (same ▸ mapped))]
      exact tidy.named other place mapped
  · have active := tidy.active i flush isFlush
    have differs : flush.userId ≠ userId := fun same => quiet (same ▸ active.flushing)
    refine active.congr (by rw [history]) (others _ fun same => ?_) ?_ ?_
    · exact differs (mine _ (same ▸ active.mapped))
    · rw [history]
      exact active.flushing
    · rw [map, if_neg differs]
      exact active.mapped
  · rw [history]
    exact tidy.once
  · rw [history]
    exact tidy.owned
  · rw [map] at mapped
    rw [history]
    split at mapped
    next =>
      cases mapped
      exact fun _ => fresh
    next => exact tidy.untouched other place mapped
  · rw [map]
    by_cases here : place = entry
    · subst here
      obtain ⟨grown, isGrown, rfl⟩ := named
      rw [isGrown] at found
      cases found
      exact Or.inl (if_pos rfl)
    · rw [others place here] at found
      rcases tidy.gone place object found with mapped | ⟨digest, gone⟩
      · have differs : object.userId ≠ userId := fun same => here (before place (same ▸ mapped))
        rw [if_neg differs]
        exact Or.inl mapped
      · exact Or.inr ⟨digest, gone.congr (by rw [history]) (others place here)⟩
  · rw [history]
    exact fun handed member => (tidy.known handed member).trans_le length
  · rw [history]
    exact tidy.counts

theorem Tidy.buffer (tidy : Tidy mem own) (payload : AlertPayload) (channels : List String)
    (quiet : userId ∉ mem.history.flushing) : Tidy (bufferForDigest userId payload channels mem) own := by
  unfold bufferForDigest
  rw [meanwhile_quiet quiet]
  split
  next entry mapped =>
    obtain ⟨object, found, named⟩ := tidy.named userId entry mapped
    refine tidy.grow quiet rfl (by rw [List.length_modify])
      (fun place differs => List.getElem?_modify_ne _ _ (Ne.symm differs)) (fun other => ?_) ?_
      (tidy.untouched userId entry mapped quiet) (fun other isOther => tidy.apart isOther mapped)
      fun place isPlace => Option.some.inj (isPlace.symm.trans mapped)
    · split
      next same => rw [same, mapped]
      next => rfl
    · refine ⟨{ object with payloads := object.payloads ++ [payload] }, ?_, named⟩
      rw [List.getElem?_modify_eq, found]
      rfl
  next unmapped =>
    refine tidy.grow quiet rfl (by rw [List.length_append]; exact Nat.le_add_right _ _)
      (fun place differs => ?_) (fun other => OrderedMap.get?_set _ _ _ _) ?_
      (fun handed member => Nat.ne_of_lt (tidy.known handed member)) (fun other isOther => ?_)
      fun place isPlace => by cases unmapped.symm.trans isPlace
    · rcases Nat.lt_or_gt_of_ne differs with below | above
      · exact List.getElem?_append_left below
      · rw [List.getElem?_eq_none (by rw [List.length_append, List.length_singleton]; omega),
          List.getElem?_eq_none (Nat.le_of_lt above)]
    · exact ⟨_, List.getElem?_concat_length, rfl⟩
    · obtain ⟨object, found, _⟩ := tidy.named other _ isOther
      rw [List.getElem?_eq_none (le_refl _)] at found
      cases found

theorem Tidy.begins (tidy : Tidy mem own) {entry : Nat} {object : DigestEntry}
    (free : own i = none) (quiet : userId ∉ mem.history.flushing)
    (mapped : mem.digestMap.get? userId = some entry) (found : mem.digests[entry]? = some object) :
    Tidy (beginFlush userId mem) (Function.update own i (some
      ⟨userId, mem.history.digestsMade, entry, object.payloads.length, object.channels⟩)) := by
  unfold beginFlush
  rw [meanwhile_quiet quiet]
  have stays : ∀ j flush, own j = some flush → j ≠ i ∧ flush.userId ≠ userId := by
    intro j flush isFlush
    refine ⟨fun same => ?_, fun same => quiet (same ▸ (tidy.active j flush isFlush).flushing)⟩
    rw [same, free] at isFlush
    cases isFlush
  refine ⟨tidy.named, fun j flush isFlush => ?_, fun j k first second isFirst isSecond same => ?_,
    List.nodup_cons.mpr ⟨quiet, tidy.once⟩, fun other member => ?_, fun other place isOther away => ?_,
    fun place object isObject => ?_, tidy.known, tidy.counts⟩
  · rw [Function.update_apply] at isFlush
    split at isFlush
    next =>
      cases isFlush
      have payloads : payloadsOf mem entry = object.payloads := by
        unfold payloadsOf
        rw [found]
      refine ⟨List.mem_cons_self, mapped, congrArg List.length payloads.symm, ?_, ?_⟩
      · exact fun handed member same =>
          absurd same (tidy.untouched userId entry mapped quiet handed member)
      · intro other isOther channel isChannel
        change mem.digests[entry]? = some other at isOther
        rw [found] at isOther
        cases isOther
        exact Or.inl isChannel
    next =>
      have active := tidy.active j flush isFlush
      exact active.congr rfl rfl (List.mem_cons_of_mem _ active.flushing) active.mapped
  · rw [Function.update_apply] at isFirst isSecond
    split at isFirst <;> split at isSecond
    next one two => rw [one, two]
    next one _ =>
      cases isFirst
      exact absurd same.symm (stays k second isSecond).2
    next _ two =>
      cases isSecond
      exact absurd same (stays j first isFirst).2
    next => exact tidy.alone j k first second isFirst isSecond same
  · rcases List.mem_cons.mp member with rfl | old
    · exact ⟨i, _, Function.update_self _ _ _, rfl⟩
    · obtain ⟨j, flush, isFlush, named⟩ := tidy.owned other old
      exact ⟨j, flush, by rwa [Function.update_of_ne (stays j flush isFlush).1], named⟩
  · exact tidy.untouched other place isOther fun old => away (List.mem_cons_of_mem _ old)
  · exact (tidy.gone place object isObject).imp_right fun ⟨digest, gone⟩ =>
      ⟨digest, gone.congr rfl rfl⟩

theorem Handed.other {entry digest : Nat} {left : List String} (handed : Handed mem entry digest left)
    {number place count : Nat} {channel : String} (differs : place ≠ entry) :
    Handed (handOver number place count channel mem) entry digest left := by
  refine ⟨fun given member same => ?_, fun object found name isName => ?_⟩
  · rcases List.mem_append.mp member with old | new
    · exact handed.whole given old same
    · rw [List.mem_singleton.mp new] at same
      exact absurd same differs
  · exact (handed.reached object found name isName).imp_right fun ⟨given, member, isOver⟩ =>
      ⟨given, List.mem_append_left _ member, isOver⟩

theorem Tidy.handOver (tidy : Tidy mem own) {channel : String} {rest : List String}
    (mine : own i = some flush) (left : flush.left = channel :: rest) :
    Tidy (handOver flush.digest flush.entry flush.count channel mem)
      (Function.update own i (some { flush with left := rest })) := by
  have active := tidy.active i flush mine
  obtain ⟨object, found, named⟩ := tidy.named _ _ active.mapped
  refine ⟨tidy.named, fun j other isOther => ?_, fun j k first second isFirst isSecond same => ?_,
    tidy.once, fun userId member => ?_, fun userId place mapped away => ?_,
    fun place object isObject => ?_, ?_, ?_⟩
  · rw [Function.update_apply] at isOther
    split at isOther
    next =>
      cases isOther
      refine ⟨active.flushing, active.mapped, active.counted, fun given member same => ?_,
        fun object isObject name isName => ?_⟩
      · rcases List.mem_append.mp member with old | new
        · exact active.handed.whole given old same
        · rw [List.mem_singleton.mp new]
          exact ⟨rfl, rfl⟩
      · have new : ∃ handed ∈ (AlertDispatcherService.handOver flush.digest flush.entry flush.count
            channel mem).history.handed, handed.entry = flush.entry ∧ handed.channel = channel :=
          ⟨_, List.mem_append_right _ (List.mem_singleton_self _), rfl, rfl⟩
        rcases active.handed.reached object isObject name isName with waits | ⟨given, member, isOver⟩
        · rw [left] at waits
          rcases List.mem_cons.mp waits with rfl | later
          · exact Or.inr new
          · exact Or.inl later
        · exact Or.inr ⟨given, List.mem_append_left _ member, isOver⟩
    next differs =>
      have theirs := tidy.active j other isOther
      refine ⟨theirs.flushing, theirs.mapped, theirs.counted, theirs.handed.other fun same => ?_⟩
      have users := tidy.apart active.mapped (same ▸ theirs.mapped)
      exact differs (tidy.alone j i other flush isOther mine users.symm)
  · have old : ∀ k flush', Function.update own i (some { flush with left := rest }) k = some flush' →
        ∃ before, own k = some before ∧ before.userId = flush'.userId := by
      intro k flush' isFlush
      rw [Function.update_apply] at isFlush
      split at isFlush
      next here =>
        cases isFlush
        exact ⟨flush, here ▸ mine, rfl⟩
      next => exact ⟨flush', isFlush, rfl⟩
    obtain ⟨one, isOne, oneUser⟩ := old j first isFirst
    obtain ⟨two, isTwo, twoUser⟩ := old k second isSecond
    exact tidy.alone j k one two isOne isTwo (oneUser.trans (same.trans twoUser.symm))
  · obtain ⟨j, other, isOther, isUser⟩ := tidy.owned userId member
    by_cases here : j = i
    · subst here
      rw [mine] at isOther
      cases isOther
      exact ⟨j, _, Function.update_self _ _ _, isUser⟩
    · exact ⟨j, other, by rwa [Function.update_of_ne here], isUser⟩
  · intro given member
    rcases List.mem_append.mp member with old | new
    · exact tidy.untouched userId place mapped away given old
    · rw [List.mem_singleton.mp new]
      rintro rfl
      exact away (tidy.apart active.mapped mapped ▸ active.flushing)
  · by_cases here : flush.entry = place
    · subst here
      change mem.digests[flush.entry]? = some object at isObject
      rw [found] at isObject
      cases isObject
      rw [named]
      exact Or.inl active.mapped
    · exact (tidy.gone place object isObject).imp_right fun ⟨digest, gone⟩ => ⟨digest, gone.other here⟩
  · intro given member
    rcases List.mem_append.mp member with old | new
    · exact tidy.known given old
    · rw [List.mem_singleton.mp new]
      exact (List.getElem?_eq_some_iff.mp found).1
  · intro given member
    rcases List.mem_append.mp member with old | new
    · exact tidy.counts given old
    · rw [List.mem_singleton.mp new]
      exact active.counted

theorem Tidy.ends (tidy : Tidy mem own) (mine : own i = some flush) (left : flush.left = []) :
    Tidy (endFlush flush.userId mem) (Function.update own i none) := by
  have active := tidy.active i flush mine
  have stays : ∀ j other, Function.update own i none j = some other →
      j ≠ i ∧ own j = some other ∧ other.userId ≠ flush.userId := by
    intro j other isOther
    rw [Function.update_apply] at isOther
    split at isOther
    next => cases isOther
    next differs =>
      exact ⟨differs, isOther, fun same => differs (tidy.alone j i other flush isOther mine same)⟩
  refine ⟨fun userId entry mapped => ?_, fun j other isOther => ?_,
    fun j k first second isFirst isSecond same => ?_, tidy.once.erase _, fun userId member => ?_,
    fun userId entry mapped away => ?_, fun entry object found => ?_, tidy.known, tidy.counts⟩
  · simp only [endFlush, OrderedMap.get?_delete] at mapped
    split at mapped
    next => cases mapped
    next => exact tidy.named userId entry mapped
  · obtain ⟨_, isOld, differs⟩ := stays j other isOther
    have theirs := tidy.active j other isOld
    refine theirs.congr rfl rfl ((List.mem_erase_of_ne differs).mpr theirs.flushing) ?_
    exact (OrderedMap.get?_delete_other _ differs).trans theirs.mapped
  · exact tidy.alone j k first second (stays j first isFirst).2.1 (stays k second isSecond).2.1 same
  · obtain ⟨differs, old⟩ := tidy.once.mem_erase_iff.mp member
    obtain ⟨j, other, isOther, isUser⟩ := tidy.owned userId old
    refine ⟨j, other, ?_, isUser⟩
    rw [Function.update_of_ne fun here => ?_]
    · exact isOther
    · rw [here, mine] at isOther
      cases isOther
      exact differs isUser.symm
  · simp only [endFlush, OrderedMap.get?_delete] at mapped
    split at mapped
    next => cases mapped
    next differs =>
      exact tidy.untouched userId entry mapped fun old =>
        away ((List.mem_erase_of_ne differs).mpr old)
  · rcases tidy.gone entry object found with mapped | ⟨digest, gone⟩
    · by_cases here : object.userId = flush.userId
      · rw [here, active.mapped] at mapped
        cases mapped
        exact Or.inr ⟨flush.digest, left ▸ active.handed.congr rfl rfl⟩
      · exact Or.inl ((OrderedMap.get?_delete_other _ here).trans mapped)
    · exact Or.inr ⟨digest, gone.congr rfl rfl⟩

end Steps

section Calls
variable {host : AlertHost} {i : Nat}

/-- What is kept as long as nothing has come while a digest was flushed. -/
def shared (host : AlertHost) : Sharing (alertProcess host) (Option Flush) :=
  fun state own => state.2.history.overlapped = [] → Tidy state.2 own

abbrev Spares {α : Type} (host : AlertHost) (program : AlertM α) : Prop :=
  Keeps (Terms.all (alertProcess host)) (shared host) program

abbrev Leads {α : Type} (host : AlertHost) (i : Nat)
    (post : State (alertProcess host) → (Nat → Option Flush) → Except Exception α → Prop)
    (state : State (alertProcess host)) (own : Nat → Option Flush) (program : AlertM α) : Prop :=
  Carries (Terms.all (alertProcess host)) (shared host) i post state own program

theorem spares_update {change : AlertMemory → AlertMemory} (unseen : ∀ mem, Unseen mem (change mem)) :
    Spares host (update change) := by
  refine keeps_change fun state own holds apart => ?_
  rw [(unseen state.2).overlapped] at apart
  exact (holds apart).unseen (unseen state.2)

theorem dateNow_spares : Spares host dateNow :=
  keeps_bind keeps_memory fun _ => keeps_bind (spares_update fun _ => ⟨rfl, rfl, rfl, rfl, rfl⟩)
    fun _ => keeps_pure

variable {userId : String}

theorem meanwhile_overlapped {history : AlertHistory} (apart : (meanwhile userId history).overlapped = []) :
    userId ∉ history.flushing ∧ history.overlapped = [] := by
  unfold meanwhile at apart
  split at apart
  next => exact absurd apart (List.append_ne_nil_of_right_ne_nil _ (List.cons_ne_nil _ _))
  next quiet => exact ⟨quiet, apart⟩

variable {payload : AlertPayload}

theorem quietNow_unseen (host : AlertHost) (start stop : Option Int) (mem : AlertMemory) :
    Unseen mem (quietNow host start stop mem).2 := by
  unfold quietNow
  split
  next => exact ⟨rfl, rfl, rfl, rfl, rfl⟩
  next => exact ⟨rfl, rfl, rfl, rfl, rfl⟩

theorem passesRateLimit_unseen {rateLimit now : Int} {mem counted : AlertMemory}
    (passes : passesRateLimit userId rateLimit now mem = some counted) : Unseen mem counted := by
  unfold passesRateLimit at passes
  split at passes
  next =>
    split at passes
    next =>
      split at passes
      next => cases passes
      next =>
        cases passes
        exact ⟨rfl, rfl, rfl, rfl, rfl⟩
    next =>
      cases passes
      exact ⟨rfl, rfl, rfl, rfl, rfl⟩
  next =>
    cases passes
    exact ⟨rfl, rfl, rfl, rfl, rfl⟩

theorem deduplicate_unseen {text : String} {time : Int} {mem passed : AlertMemory}
    (isPassed : deduplicate userId text time mem = some passed) : Unseen mem passed := by
  unfold deduplicate at isPassed
  split at isPassed
  next => cases isPassed
  next =>
    cases isPassed
    exact ⟨rfl, rfl, rfl, rfl, rfl⟩

theorem buffer_kept {state : State (alertProcess host)} (holds : shared host state own)
    (userId : String) (payload : AlertPayload) (channels : List String) :
    shared host (state.1, bufferForDigest userId payload channels state.2) own := by
  intro apart
  have history : (bufferForDigest userId payload channels state.2).history =
      meanwhile userId state.2.history := by
    unfold bufferForDigest
    split <;> rfl
  change (bufferForDigest userId payload channels state.2).history.overlapped = [] at apart
  rw [history] at apart
  obtain ⟨quiet, before⟩ := meanwhile_overlapped apart
  exact (holds before).buffer payload channels quiet

theorem unseen_kept {world : AlertWorld} {mem after : AlertMemory} (holds : shared host (world, mem) own)
    (unseen : Unseen mem after) : shared host (world, after) own := by
  intro apart
  change after.history.overlapped = [] at apart
  rw [unseen.overlapped] at apart
  exact (holds apart).unseen unseen

/-- A payload is at most put into the buffer before the delivery begins. -/
theorem admit_kept {state : State (alertProcess host)} (holds : shared host state own)
    (userId : String) (payload : AlertPayload) (prefs : Option AlertPreference) :
    shared host (state.1, (accept host userId payload prefs state.2).1) own := by
  unfold accept
  dsimp only
  split
  next => exact holds
  next =>
    split
    next => exact unseen_kept holds ⟨rfl, rfl, rfl, rfl, rfl⟩
    next counted passes =>
      have ticked : shared host (state.1, tick state.2) own :=
        unseen_kept holds ⟨rfl, rfl, rfl, rfl, rfl⟩
      have quiet := unseen_kept (unseen_kept ticked (passesRateLimit_unseen passes))
        (quietNow_unseen host (prefs.bind (·.quietHoursStart)) (prefs.bind (·.quietHoursEnd)) counted)
      split
      next => exact unseen_kept quiet ⟨rfl, rfl, rfl, rfl, rfl⟩
      next =>
        split
        next =>
          have buffered := buffer_kept quiet userId payload ((prefs.map (·.channels)).getD ["in-app"])
          exact unseen_kept buffered ⟨rfl, rfl, rfl, rfl, rfl⟩
        next => exact unseen_kept quiet ⟨rfl, rfl, rfl, rfl, rfl⟩

theorem dispatch_spares : Spares host (dispatch host userId payload) := by
  refine keeps_bind dateNow_spares fun time i state own holds => carries_bind (carries_memory ?_)
  dsimp only [Async.onOk]
  split
  next => exact ⟨holds, rfl⟩
  next passed isPassed =>
    have cleared : shared host (state.1, recordCleared userId payload.json.stringify time passed) own :=
      unseen_kept (unseen_kept holds (deduplicate_unseen isPassed)) ⟨rfl, rfl, rfl, rfl, rfl⟩
    have asked : Spares host (do
        let prefs ← ask (.findPreference userId)
        dispatchWith host userId payload prefs) := by
      refine keeps_bind (keeps_ask _) fun prefs i state own holds => carries_bind (carries_memory ?_)
      have admitted := admit_kept holds userId payload prefs
      refine carries_bind (carries_change admitted ?_)
      exact deliverEach_keeps _ i _ own admitted
    exact carries_bind (carries_change cleared (asked i _ own cleared))

theorem deliverDigest_leads {digest entry count : Nat} :
    ∀ (left : List String) (state : State (alertProcess host)) (own : Nat → Option Flush),
      shared host state own → own i = some ⟨userId, digest, entry, count, left⟩ →
      Leads host i (fun later theirs result => shared host later theirs ∧
        ((∃ failure, result = .error failure) ∨ theirs i = some ⟨userId, digest, entry, count, []⟩))
        state own (deliverDigest host userId digest entry count left)
  | [], _, _, holds, mine => ⟨holds, Or.inr mine⟩
  | channel :: left, state, own, holds, mine => by
    have kept : shared host (state.1, handOver digest entry count channel state.2)
        (Function.update own i (some ⟨userId, digest, entry, count, left⟩)) :=
      fun apart => (holds apart).handOver mine rfl
    refine carries_bind (carries_update _ kept (carries_bind ?_))
    refine carries_mono ?_ (deliverToChannel_keeps 3 i _ _ kept)
    rintro later theirs result ⟨held, same⟩
    rw [Function.update_self] at same
    cases result with
    | ok value => exact deliverDigest_leads left later theirs held same
    | error failure => exact ⟨held, Or.inl ⟨failure, rfl⟩⟩

/-- The states and parts in which a call without a deed goes on, unless it has failed. -/
def Between (host : AlertHost) (i : Nat) (state : State (alertProcess host)) (own : Nat → Option Flush)
    (result : Except Exception Unit) : Prop :=
  shared host state own ∧ ((∃ failure, result = .error failure) ∨ own i = none)

theorem flushDigest_leads {state : State (alertProcess host)} (holds : shared host state own)
    (free : own i = none) : Leads host i (Between host i) state own (flushDigest host userId) := by
  refine carries_bind (carries_memory ?_)
  dsimp only [Async.onOk]
  split
  next => exact ⟨holds, Or.inr free⟩
  next entry mapped =>
    split
    next => exact ⟨holds, Or.inr free⟩
    next object found =>
      split
      next => exact ⟨holds, Or.inr free⟩
      next =>
        have begun : shared host (state.1, beginFlush userId state.2) (Function.update own i (some
            ⟨userId, state.2.history.digestsMade, entry, object.payloads.length,
              object.channels⟩)) := by
          intro apart
          obtain ⟨quiet, before⟩ := meanwhile_overlapped apart
          exact (holds before).begins free quiet mapped found
        refine carries_bind (carries_update _ begun (carries_bind ?_))
        refine carries_mono ?_ (deliverDigest_leads object.channels _ _ begun (Function.update_self _ _ _))
        rintro later theirs result ⟨held, failed | mine⟩
        · obtain ⟨failure, rfl⟩ := failed
          exact ⟨held, Or.inl ⟨failure, rfl⟩⟩
        · cases result with
          | error failure => exact ⟨held, Or.inl ⟨failure, rfl⟩⟩
          | ok value =>
            have ended : shared host (later.1, endFlush userId later.2)
                (Function.update theirs i none) := fun apart => (held apart).ends mine rfl
            exact carries_update none ended ⟨ended, Or.inr (Function.update_self _ _ _)⟩

theorem flushFrom_leads : ∀ (users place : Nat) (state : State (alertProcess host))
    (own : Nat → Option Flush), shared host state own → own i = none →
      Leads host i (Between host i) state own (flushFrom host place users)
  | 0, _, _, _, holds, free => ⟨holds, Or.inr free⟩
  | users + 1, place, state, own, holds, free => by
    refine carries_bind (carries_memory ?_)
    dsimp only [Async.onOk]
    split
    next => exact ⟨holds, Or.inr free⟩
    next userId entry _ =>
      refine carries_bind (carries_mono ?_ (flushDigest_leads holds free))
      rintro later theirs result ⟨held, failed | idle⟩
      · obtain ⟨failure, rfl⟩ := failed
        exact ⟨held, Or.inl ⟨failure, rfl⟩⟩
      · cases result with
        | error failure => exact ⟨held, Or.inl ⟨failure, rfl⟩⟩
        | ok value => exact flushFrom_leads users _ later theirs held idle

theorem body_leads (call : AlertCall) {state : State (alertProcess host)} (holds : shared host state own)
    (free : own i = none) : Leads host i (fun _ _ _ => True) state own (alertBody host call) := by
  cases call with
  | dispatch userId payload =>
    exact carries_mono (fun _ _ _ _ => trivial) (dispatch_spares i state own holds)
  | flushDigest userId => exact carries_mono (fun _ _ _ _ => trivial) (flushDigest_leads holds free)
  | flushAllDigests users =>
    exact carries_mono (fun _ _ _ _ => trivial) (flushFrom_leads users 0 state own holds free)

theorem tidy_fresh (clock : Clock) : Tidy (.fresh clock) fun _ => none where
  named _ _ mapped := nomatch mapped
  active _ _ isFlush := nomatch isFlush
  alone _ _ _ _ isFlush := nomatch isFlush
  once := List.nodup_nil
  owned _ member := nomatch member
  untouched _ _ mapped := nomatch mapped
  gone _ _ found := nomatch found
  known _ member := nomatch member
  counts _ member := nomatch member

end Calls

/-- In every run in which nothing comes for a user whose digest is being flushed, neither a payload nor
another flush, nothing is lost. -/
theorem digests_delivered (host : AlertHost) (world : AlertWorld) (clock : Clock)
    (labels : List (Label (alertProcess host))) (after : Config (alertProcess host))
    (ran : run labels (Config.initial (alertProcess host) world (.fresh clock)) = some after)
    (apart : after.mem.history.overlapped = []) : NothingLost after.mem := by
  have start : shared host (world, .fresh clock) fun _ => none := fun _ => tidy_fresh clock
  have bodies : ∀ call i state own, (alertProcess host).isPublic call = true →
      shared host state own → own i = none →
        Carries (Terms.all (alertProcess host)) (shared host) i (fun _ _ _ => True) state own
          ((alertProcess host).body call) :=
    fun call i state own _ holds free => body_leads call holds free
  obtain ⟨own, holds⟩ := shared_run bodies (fun _ _ _ holds _ => holds) start
    (admissible_always met_all labels _) ran
  exact (holds apart).nothingLost

theorem sampleList_typed (name : String) : TextMember (.array []) name :=
  fun _ isMember => nomatch isMember

def sampleList : AlertPayload := ⟨.array [], sampleList_typed _, sampleList_typed _⟩

/-- Users who get a digest in the application. -/
def digestWorld : AlertWorld :=
  ⟨fun _ => some ⟨["in-app"], none, none, 10, .dailyDigest, none⟩⟩

/-- An alert is buffered and the digest handed over; then the delivery ends. -/
def flushed : List (Label (alertProcess sampleHost)) :=
  [.call (.dispatch "user" samplePayload), .resume 0, .reply 0 .done, .resume 0,
    .call (.flushDigest "user"), .resume 1]

def ended : List (Label (alertProcess sampleHost)) := [.reply 1 .done, .resume 1]

/-- Another alert is buffered. -/
def buffered : List (Label (alertProcess sampleHost)) :=
  [.call (.dispatch "user" sampleList), .resume 2, .reply 2 .done, .resume 2]

theorem digest_delivered : ∃ after,
    run (flushed ++ ended) (Config.initial (alertProcess sampleHost) digestWorld (.fresh sampleClock)) =
      some after ∧ NothingLost after.mem := by
  obtain ⟨after, ran, apart⟩ := (by decide +kernel : ∃ after, run (flushed ++ ended)
    (Config.initial (alertProcess sampleHost) digestWorld (.fresh sampleClock)) = some after ∧
      after.mem.history.overlapped = [])
  exact ⟨after, ran, digests_delivered sampleHost digestWorld sampleClock _ after ran apart⟩

/-- The alert that is buffered during the delivery is removed with the entry. -/
theorem alert_lost : ∃ after, run (flushed ++ buffered ++ ended)
      (Config.initial (alertProcess sampleHost) digestWorld (.fresh sampleClock)) = some after ∧
    ¬ NothingLost after.mem := by
  obtain ⟨after, ran, lost⟩ := (by decide +kernel : ∃ after, run (flushed ++ buffered ++ ended)
    (Config.initial (alertProcess sampleHost) digestWorld (.fresh sampleClock)) = some after ∧
      (after.mem.history.handed = [⟨0, 0, "in-app", 1, 1⟩] ∧ after.mem.digestMap.get? "user" = none ∧
        after.mem.digests.map (fun object => (object.userId, object.payloads.length, object.channels)) =
          [("user", 2, ["in-app"])]))
  obtain ⟨handed, unmapped, objects⟩ := lost
  refine ⟨after, ran, fun nothingLost => ?_⟩
  obtain ⟨object, isObject, same⟩ : ∃ object, after.mem.digests[0]? = some object ∧
      (object.userId, object.payloads.length, object.channels) = ("user", 2, ["in-app"]) := by
    have first := congrArg (fun list => list[0]?) objects
    simp only [List.getElem?_map] at first
    exact Option.map_eq_some_iff.mp first
  obtain ⟨user, length, channels⟩ : object.userId = "user" ∧ object.payloads.length = 2 ∧
      object.channels = ["in-app"] := by simpa using same
  rcases nothingLost.payloads 0 object 1 isObject (by omega) with delivered | mapped
  · obtain ⟨_, ⟨given, member, _, _, _, inside⟩, _⟩ :=
      delivered "in-app" (channels ▸ List.mem_singleton_self _)
    rw [handed, List.mem_singleton] at member
    rw [member] at inside
    exact absurd inside (by decide)
  · rw [user, unmapped] at mapped
    cases mapped

end AlianStructure.Guarantees.DigestDelivery
