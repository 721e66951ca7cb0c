import Mathlib.Data.List.Basic
import Milp.Library
import Milp.Problem.Solve

/-!
# What can happen to libraries

A library that was opened is loaded until it is closed, and then it has been unloaded, once. A reply
that was received has been given back, once, when the one who asked gets a result or an error,
whatever the bytes of the reply are. So it is at the start, and whatever is done to libraries leaves
it so: `Host.Sound`.
-/

namespace Milp.Host

variable {s : Host} {h l : Handle} {message : Except Json.Unwritable (Datum Number)}

/-! ### Asking -/

/-- The state when a text has been sent, with the replies that are left. -/
def afterSending (s : Host) (text : String) (replies : List Reply) : Host :=
  { s with sent := s.sent ++ [text], replies }

/-- The state when one more reply has been received and given back. -/
def afterReply (s : Host) : Host :=
  { s with received := s.received + 1, returned := s.returned ++ [s.received] }

theorem run_send (s : Host) (text : String) :
    (∃ e replies, (send text).run s = .error e (s.afterSending text replies)) ∨
    ∃ bytes replies, (send text).run s =
      .ok (s.received, bytes) { s.afterSending text replies with received := s.received + 1 } := by
  unfold send
  simp only [EStateM.run_bind, EStateM.run_get]
  cases s.replies with
  | nil => exact .inl ⟨.exhausted, [], rfl⟩
  | cons reply replies =>
    cases reply with
    | none => exact .inl ⟨.noReply, replies, rfl⟩
    | some bytes => exact .inr ⟨bytes, replies, rfl⟩

/-- **Everything that can follow when a text is sent**: there is no reply, or there is one, and then
it has been given back in the end, also if it is no text. -/
theorem run_exchange (s : Host) (text : String) : ∃ replies,
    (∃ e, (exchange text).run s = .error e (s.afterSending text replies)) ∨
    (∃ reply, (exchange text).run s = .ok reply (s.afterSending text replies).afterReply) ∨
    ∃ e, (exchange text).run s = .error e (s.afterSending text replies).afterReply := by
  unfold exchange
  rw [EStateM.run_bind]
  obtain ⟨e, replies, hsend⟩ | ⟨bytes, replies, hsend⟩ := run_send s text
  · rw [hsend]
    exact ⟨replies, .inl ⟨e, rfl⟩⟩
  · rw [hsend]
    dsimp only
    refine ⟨replies, .inr ?_⟩
    unfold copyText
    cases Text.decodeUtf8 (bytes.takeWhile (· ≠ 0)) with
    | ok reply => exact .inl ⟨reply, rfl⟩
    | error e => exact .inr ⟨.encoding e, rfl⟩

/-- **A library that is not loaded is not asked.** -/
theorem ask_of_closed (hclosed : s.isOpen l = false)
    (message : Except Json.Unwritable (Datum Number)) : s.ask l message = (.error .closed, s) := by
  unfold ask converse
  rw [EStateM.run_bind, EStateM.run_get]
  dsimp only
  rw [hclosed]
  rfl

/-- **Everything that asking a loaded library can do**: the message cannot be written, or it is
sent, and then a reply has been received and given back, or there was none. -/
theorem ask_of_open (hopen : s.isOpen l) (message : Except Json.Unwritable (Datum Number)) :
    (∃ e, message.bind Json.text = .error e ∧ s.ask l message = (.error (.unwritable e), s)) ∨
    ∃ text, message.bind Json.text = .ok text ∧ ∃ r replies,
      s.ask l message = (r, s.afterSending text replies) ∨
      s.ask l message = (r, (s.afterSending text replies).afterReply) := by
  unfold ask converse
  rw [EStateM.run_bind, EStateM.run_get]
  dsimp only
  rw [hopen, if_pos rfl]
  cases message.bind Json.text with
  | error e => exact .inl ⟨e, rfl, rfl⟩
  | ok text =>
    refine .inr ⟨text, rfl, ?_⟩
    dsimp only
    rw [EStateM.run_bind]
    obtain ⟨replies, ⟨e, hrun⟩ | ⟨reply, hrun⟩ | ⟨e, hrun⟩⟩ := run_exchange s text <;> rw [hrun]
    · exact ⟨.error e, replies, .inl rfl⟩
    · dsimp only
      cases Json.read reply with
      | ok d => exact ⟨.ok d, replies, .inr rfl⟩
      | error e => exact ⟨.error (.json e reply), replies, .inr rfl⟩
    · exact ⟨.error e, replies, .inr rfl⟩

/-- Asking neither opens nor closes libraries. -/
theorem unchanged_ask (l : Handle) (message : Except Json.Unwritable (Datum Number)) :
    (s.ask l message).2.libraries = s.libraries ∧ (s.ask l message).2.unloaded = s.unloaded := by
  cases hopen : s.isOpen l with
  | false =>
    rw [ask_of_closed hopen]
    exact ⟨rfl, rfl⟩
  | true =>
    obtain ⟨e, -, h⟩ | ⟨text, -, r, replies, h | h⟩ := ask_of_open hopen message <;> rw [h] <;>
      exact ⟨rfl, rfl⟩

/-- A library as a solver: it is sent the message as JSON text. -/
def solver (l : Handle) : Solver String (Datum Number) Number Host LibraryError :=
  fun M s => s.ask l (.ok (M.toDatum .text))

/-! ### Opening and closing -/

/-- The state when a library has been opened at a path. -/
def afterOpening (s : Host) (path : String) : Host :=
  { s with libraries := s.libraries ++ [⟨path, true⟩] }

theorem openLibrary_eq_ok {path : String} {s' : Host} (h : openLibrary path s = .ok (l, s')) :
    l = s.libraries.length ∧ ∃ path, s' = s.afterOpening path := by
  unfold openLibrary at h
  dsimp only at h
  split at h
  · exact nomatch h
  · split at h
    · obtain ⟨rfl, rfl⟩ := Prod.mk.inj (Except.ok.inj h)
      exact ⟨rfl, _, rfl⟩
    · exact nomatch h

theorem isOpen_congr {s' : Host} (hs : s'.libraries = s.libraries) : s'.isOpen l = s.isOpen l := by
  rw [isOpen, hs, isOpen]

theorem lt_of_isOpen (h : s.isOpen l) : l < s.libraries.length := by
  by_contra hle
  rw [isOpen, List.getElem?_eq_none (Nat.le_of_not_lt hle)] at h
  exact absurd h Bool.false_ne_true

theorem isOpen_afterOpening (path : String) :
    (s.afterOpening path).isOpen l = (decide (l = s.libraries.length) || s.isOpen l) := by
  unfold isOpen afterOpening
  dsimp only
  obtain hlt | rfl | hgt := Nat.lt_trichotomy l s.libraries.length
  · rw [List.getElem?_append_left hlt]
    simp [Nat.ne_of_lt hlt]
  · simp
  · have hnone : (s.libraries ++ [⟨path, true⟩])[l]? = none := by
      rw [List.getElem?_eq_none_iff, List.length_append, List.length_singleton]
      exact hgt
    rw [hnone, List.getElem?_eq_none (Nat.le_of_lt hgt)]
    simp [Nat.ne_of_gt hgt]

theorem isOpen_close : (s.close h).isOpen l = (s.isOpen l && decide (l ≠ h)) := by
  unfold close
  split
  next hopen =>
    unfold isOpen
    dsimp only
    rw [List.getElem?_modify]
    by_cases hl : h = l
    · subst hl
      cases s.libraries[h]? <;> simp
    · simp [hl, Ne.symm hl]
  next hopen =>
    by_cases hl : l = h
    · subst hl
      simpa using hopen
    · simp [hl]

theorem length_close : (s.close h).libraries.length = s.libraries.length := by
  unfold close
  split
  · exact List.length_modify ..
  · rfl

theorem unloaded_close :
    (s.close h).unloaded = if s.isOpen h then s.unloaded ++ [h] else s.unloaded := by
  unfold close
  split <;> rfl

theorem isOpen_closeAll {hs : List Handle} :
    (s.closeAll hs).isOpen l = (s.isOpen l && decide (l ∉ hs)) := by
  induction hs generalizing s with
  | nil => simp [closeAll]
  | cons h hs ih =>
    rw [closeAll, List.foldl_cons, ← closeAll, ih, isOpen_close]
    simp [Bool.and_assoc]

theorem length_closeAll {hs : List Handle} :
    (s.closeAll hs).libraries.length = s.libraries.length := by
  induction hs generalizing s with
  | nil => rfl
  | cons h hs ih => rw [closeAll, List.foldl_cons, ← closeAll, ih, length_close]

/-! ### What is always so -/

/-- **What is always so**: what has been unloaded was opened and is not loaded, and was unloaded
once; and every reply that was received has been given back, once. -/
structure Sound (s : Host) : Prop where
  nodup : s.unloaded.Nodup
  mem_unloaded_iff : ∀ l, l ∈ s.unloaded ↔ l < s.libraries.length ∧ s.isOpen l = false
  returned : s.returned = List.range s.received

theorem sound_empty (files : List String) : (empty files).Sound where
  nodup := List.nodup_nil
  mem_unloaded_iff l := by simp [empty]
  returned := rfl

namespace Sound

variable (hs : s.Sound)

include hs

theorem afterOpening (path : String) : (s.afterOpening path).Sound where
  nodup := hs.nodup
  mem_unloaded_iff l := by
    rw [isOpen_afterOpening, show (s.afterOpening path).unloaded = s.unloaded from rfl,
      hs.mem_unloaded_iff, show (s.afterOpening path).libraries.length = s.libraries.length + 1 by
        simp [Host.afterOpening]]
    rw [Bool.or_eq_false_iff, decide_eq_false_iff_not, Nat.lt_succ_iff_lt_or_eq]
    constructor
    · exact fun ⟨hlt, hclosed⟩ => ⟨.inl hlt, Nat.ne_of_lt hlt, hclosed⟩
    · exact fun ⟨hle, hne, hclosed⟩ => ⟨hle.resolve_right hne, hclosed⟩
  returned := hs.returned

theorem close (h : Handle) : (s.close h).Sound where
  nodup := by
    rw [unloaded_close]
    split
    next hopen =>
      rw [List.nodup_append]
      refine ⟨hs.nodup, List.pairwise_singleton _ h, ?_⟩
      rintro l hl _ hlh rfl
      obtain rfl := List.mem_singleton.1 hlh
      rw [((hs.mem_unloaded_iff l).1 hl).2] at hopen
      exact absurd hopen Bool.false_ne_true
    next => exact hs.nodup
  mem_unloaded_iff l := by
    rw [unloaded_close, isOpen_close, length_close]
    split
    next hopen =>
      rw [List.mem_append, List.mem_singleton, hs.mem_unloaded_iff]
      by_cases hl : l = h
      · subst hl
        simp [lt_of_isOpen hopen]
      · simp [hl]
    next hopen =>
      rw [hs.mem_unloaded_iff]
      by_cases hl : l = h
      · subst hl
        simp [hopen]
      · simp [hl]
  returned := by
    unfold Host.close
    split <;> exact hs.returned

theorem closeAll (hs' : List Handle) : (s.closeAll hs').Sound := by
  induction hs' generalizing s with
  | nil => exact hs
  | cons h hs' ih => exact ih (hs.close h)

/-- Only the texts that were sent and the replies that are left differ. -/
theorem afterSending (text : String) (replies : List Reply) :
    (s.afterSending text replies).Sound :=
  ⟨hs.nodup, hs.mem_unloaded_iff, hs.returned⟩

theorem afterReply : s.afterReply.Sound where
  nodup := hs.nodup
  mem_unloaded_iff := hs.mem_unloaded_iff
  returned := by
    unfold Host.afterReply
    dsimp only
    rw [hs.returned, List.range_succ]

theorem ask (l : Handle) (message : Except Json.Unwritable (Datum Number)) :
    (s.ask l message).2.Sound := by
  cases hopen : s.isOpen l with
  | false =>
    rw [ask_of_closed hopen]
    exact hs
  | true =>
    obtain ⟨e, -, h⟩ | ⟨text, -, r, replies, h | h⟩ := ask_of_open hopen message <;> rw [h]
    · exact hs
    · exact hs.afterSending text replies
    · exact (hs.afterSending text replies).afterReply

end Sound

end Milp.Host
