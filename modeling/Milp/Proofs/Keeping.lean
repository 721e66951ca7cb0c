import Milp.Proofs.Libraries
import Milp.Session.Release

/-!
# Libraries as values of a session

A session keeps a library as a value whose properties tell whether it is closed. So it stands as
`Session.IsLibrary` says from the moment when it is opened, and whatever closes it, a call, the end
of its context or the end of its use, unloads it once: `Session.IsLibrary.ends_finalize`.
-/

namespace Milp

namespace Session

variable {caller : Caller} {s s' s'' : Session} {u v w : Value} {key : String} {c : Content}
  {l k : Handle} {τ β : Type}

/-! ### Acts -/

/-- The act ends with the result in the last of the states. -/
def Ends (caller : Caller) (act : Act τ) (s : Session) (r : τ) (s' : Session) : Prop :=
  (act.run caller).run s = .ok r s'

/-- What is done after the act is done in the state that the act left. -/
theorem Ends.run_bind {act : Act τ} {x : τ} (h : Ends caller act s x s') (next : τ → Act β) :
    ((act >>= next).run caller).run s = ((next x).run caller).run s' := by
  rw [ReaderT.run_bind, EStateM.run_bind, h]

theorem Ends.bind {act : Act τ} {next : τ → Act β} {x : τ} {r : β} (h : Ends caller act s x s')
    (hnext : Ends caller (next x) s' r s'') : Ends caller (act >>= next) s r s'' :=
  (h.run_bind next).trans hnext

/-- Nothing is caught if there is no error. -/
theorem Ends.try_catch {act : Act τ} {r : τ} (h : Ends caller act s r s')
    (handler : Failure → Act τ) : Ends caller (tryCatch act handler) s r s' := by
  unfold Ends at *
  change EStateM.tryCatch (act.run caller) _ s = _
  unfold EStateM.tryCatch
  rw [show act.run caller s = .ok r s' from h]

theorem ends_pure (r : τ) : Ends caller (pure r) s r s := rfl

theorem ends_get : Ends caller get s s s := rfl

theorem ends_modify (f : Session → Session) : Ends caller (modify f) s () (f s) := rfl

theorem ends_ofExcept {ε : Type} {f : ε → Failure} {r : Except ε τ} {x : τ} (h : r = .ok x) :
    Ends caller (ofExcept f r) s x s := by
  rw [h]
  rfl

/-- A new value has the next tag. -/
theorem ends_give (c : Content) :
    Ends caller (give c) s (.mk s.nextTag c) { s with nextTag := s.nextTag + 1 } := rfl

/-! ### Properties that a value was given -/

/-- The session when a value has been given a property. -/
def noted (s : Session) (v : Value) (key : String) (new : Value) : Session :=
  { s with notes := setField v.number (setField key new (s.notesOf v)) s.notes }

theorem note?_noted (key key' : String) (new : Value) :
    (s.noted v key new).note? u key' =
      if u.number = v.number ∧ key' = key then some new else s.note? u key' := by
  unfold note? notesOf noted
  dsimp only
  rw [lookup_setField]
  by_cases hnumber : u.number = v.number
  · by_cases hkey : key' = key
    · simp [hnumber, hkey, lookup_setField]
    · simp [hnumber, hkey, lookup_setField, notesOf]
  · simp [hnumber]

/-- The value was given a property with the content. -/
def Has (s : Session) (v : Value) (key : String) (c : Content) : Prop :=
  ∃ tag ≠ 0, s.note? v key = some (.mk tag c)

/-- **The value is a library as it was opened**: its properties tell whether it is closed, its code
as long as it is not, and its path, and nothing stands in place of its operations. -/
structure IsLibrary (s : Session) (v : Value) (l : Handle) : Prop where
  content : v.content = .library l
  closed : s.Has v "_closed" (.quantity (.number (.truth !s.host.isOpen l)))
  code : s.host.isOpen l → s.Has v "_lib" (.code l)
  path : ∃ path, s.Has v "binary_path" (.path path)
  close : s.note? v "close" = none

theorem own?_of_library (hv : v.content = .library l) :
    s.own? v key = (s.note? v key).filter (!·.isAbsent) := by
  have hmade : s.madeWith v = [] := by
    unfold madeWith
    rw [hv]
    dsimp only
    unfold object?
    rw [hv]
    rfl
  unfold own?
  rw [hmade]
  cases s.note? v key <;> rfl

theorem ends_property (caller : Caller) (hv : v.content = .library l)
    (hkey : key = "_closed" ∨ key = "_lib" ∨ key = "binary_path") (h : s.Has v key c)
    (hc : c ≠ .absent) : ∃ w, w.content = c ∧ Ends caller (property v key) s w s := by
  obtain ⟨tag, htag, hnote⟩ := h
  have hown : s.own? v key = some (.mk tag c) := by
    rw [own?_of_library hv, hnote]
    cases c <;> first | rfl | exact absurd rfl hc
  refine ⟨.mk tag c, rfl, ?_⟩
  obtain ⟨t, d⟩ := v
  obtain rfl : d = .library l := hv
  have hpeek : s.peek (.mk t (.library l)) key = .ok (.mk tag c) := by
    unfold peek
    obtain rfl | rfl | rfl := hkey <;> simp [derived?, Value.content, alias?, hown]
  have hplainly : Ends caller (ownProperty.plainly (.mk t (.library l)) key) s (.mk tag c) s := by
    unfold ownProperty.plainly
    refine .bind ends_get (.bind (ends_ofExcept hpeek) ?_)
    split
    next heq => exact absurd (congrArg Value.tag heq) htag
    next =>
      unfold settle
      split
      next heq => exact absurd (congrArg Value.tag heq) htag
      next => exact ends_pure _
  obtain rfl | rfl | rfl := hkey <;>
    simpa [property, ownProperty, sheetOf?, sheet?, recordKey, members?, Value.content]
      using hplainly

theorem truthOf_truth {b : Bool} (hw : w.content = .quantity (.number (.truth b))) :
    s.truthOf w = .ok b := by
  unfold truthOf
  rw [hw]
  dsimp only
  unfold truthOfItem
  rw [hw]
  cases b <;> rfl

/-- Whether a library is closed is told by its property. -/
theorem IsLibrary.ends_closed (h : s.IsLibrary v l) (caller : Caller) :
    ∃ w, Ends caller (property v "_closed") s w s ∧
      Ends caller (isTrue w) s (!s.host.isOpen l) s := by
  obtain ⟨w, hw, hrun⟩ :=
    ends_property caller h.content (.inl rfl) h.closed (by simp)
  exact ⟨w, hrun, .bind ends_get (ends_ofExcept (truthOf_truth hw))⟩

/-- The operations of a library are its own. -/
theorem ends_demand (hv : v.content = .library l) (hkey : key = "close" ∨ key = "solve")
    (hnote : s.note? v key = none) : Ends caller (demand v key) s (.own v) s := by
  refine .bind ends_get (ends_ofExcept ?_)
  unfold target
  rw [own?_of_library hv, hnote, hv]
  obtain rfl | rfl := hkey <;> rfl

theorem ends_setProperty (hv : v.content = .library l) (hkey : key = "_closed" ∨ key = "_lib")
    (new : Value) : Ends caller (setProperty v key new) s () (s.noted v key new) := by
  obtain ⟨t, d⟩ := v
  obtain rfl : d = .library l := hv
  refine .bind ends_get ?_
  obtain rfl | rfl := hkey
  · rfl
  · rfl

/-! ### Opening -/

/-- **A library that is opened** is a library as it was opened, if its tag is new: the value with
the tag has been given nothing yet. -/
theorem ends_openLibrary (caller : Caller) {path : String} {host : Host} (tag : Nat)
    (hopen : Host.openLibrary path s.host = .ok (l, host))
    (hnew : s.notesOf (.mk s.nextTag (.library l)) = []) :
    ∃ s', Ends caller (openLibrary (.mk tag (.text path))) s (.mk s.nextTag (.library l)) s' ∧
      s'.host = host ∧ s'.IsLibrary (.mk s.nextTag (.library l)) l := by
  have hisOpen : host.isOpen l = true := by
    obtain ⟨rfl, path, rfl⟩ := Host.openLibrary_eq_ok hopen
    rw [Host.isOpen_afterOpening, decide_eq_true rfl, Bool.true_or]
  let v : Value := .mk s.nextTag (.library l)
  let opened : Session := { s with host := host, nextTag := s.nextTag + 4 }
  let noted : Session :=
    ((opened.noted v "binary_path" (.mk (s.nextTag + 1) (.path (host.path l)))).noted v "_lib"
      (.mk (s.nextTag + 2) (.code l))).noted v "_closed"
        (.mk (s.nextTag + 3) (.quantity (.number (.truth false))))
  have hnone (key : String) : opened.note? v key = none := by
    rw [show opened.note? v key = (s.notesOf v).lookup key from rfl, hnew]
    rfl
  refine ⟨noted, .bind ends_get (.bind (ends_ofExcept hopen) rfl), rfl, rfl, ?_, ?_, ?_, ?_⟩
  · refine ⟨s.nextTag + 3, Nat.succ_ne_zero _, ?_⟩
    rw [note?_noted, if_pos ⟨rfl, rfl⟩, show noted.host = host from rfl, hisOpen]
    rfl
  · refine fun _ => ⟨s.nextTag + 2, Nat.succ_ne_zero _, ?_⟩
    rw [note?_noted, if_neg (by simp), note?_noted, if_pos ⟨rfl, rfl⟩]
  · refine ⟨host.path l, s.nextTag + 1, Nat.succ_ne_zero _, ?_⟩
    rw [note?_noted, if_neg (by simp), note?_noted, if_neg (by simp), note?_noted,
      if_pos ⟨rfl, rfl⟩]
  · rw [note?_noted, if_neg (by simp), note?_noted, if_neg (by simp), note?_noted,
      if_neg (by simp), hnone]

/-! ### Closing -/

/-- The session when a library has been closed. -/
def shut (s : Session) (v : Value) (l : Handle) : Session :=
  { (s.noted v "_lib" .null).noted v "_closed" (.mk s.nextTag (.quantity (.number (.truth true))))
    with nextTag := s.nextTag + 1, host := s.host.close l }

theorem note?_shut (key : String) : (s.shut v l).note? u key =
    if u.number = v.number ∧ key = "_closed" then
      some (.mk s.nextTag (.quantity (.number (.truth true))))
    else if u.number = v.number ∧ key = "_lib" then some .null else s.note? u key := by
  rw [show (s.shut v l).note? u key = ((s.noted v "_lib" .null).noted v "_closed"
    (.mk s.nextTag (.quantity (.number (.truth true))))).note? u key from rfl]
  rw [note?_noted, note?_noted]

theorem plainOf_path {path : String} (hw : w.content = .path path) : s.plainOf w = .ok path := by
  unfold plainOf fuel
  rw [plain, hw]

/-- **Closing a library** that counts as closed does nothing; otherwise it loses its code, counts as
closed from now on, and is unloaded. -/
theorem IsLibrary.ends_closeLibrary (h : s.IsLibrary v l) (caller : Caller) :
    Ends caller (closeLibrary v) s () (if s.host.isOpen l then s.shut v l else s) := by
  unfold closeLibrary
  obtain ⟨w, hproperty, htrue⟩ := h.ends_closed caller
  refine .bind hproperty (.bind htrue ?_)
  cases hopen : s.host.isOpen l with
  | false => exact ends_pure ()
  | true =>
    obtain ⟨code, hcode, hlib⟩ :=
      ends_property caller h.content (.inr (.inl rfl)) (h.code hopen) (by simp)
    refine .bind hlib ?_
    rw [hcode]
    refine .bind (ends_setProperty h.content (.inr rfl) _) ?_
    refine .bind (ends_give (.quantity (.number (.truth true)))) ?_
    refine .bind (ends_setProperty h.content (.inl rfl) _) (.bind (ends_modify _) ?_)
    change Ends caller _ (s.shut v l) () (s.shut v l)
    -- the log has a line with the path
    obtain ⟨path, tag, htag, hpath⟩ := h.path
    have hpath' : (s.shut v l).Has v "binary_path" (.path path) := by
      refine ⟨tag, htag, ?_⟩
      rw [note?_shut, if_neg (by simp), if_neg (by simp), hpath]
    obtain ⟨w, hw, hproperty⟩ :=
      ends_property caller h.content (.inr (.inr rfl)) hpath' (by simp)
    exact .bind ends_get (.bind hproperty (.bind (ends_ofExcept (plainOf_path hw)) (ends_pure ())))

/-- Leaving the context of a library closes it. -/
theorem IsLibrary.ends_leave (h : s.IsLibrary v l) (caller : Caller) :
    Ends caller (leave v) s () (if s.host.isOpen l then s.shut v l else s) :=
  .bind (x := Value.null) (.bind (ends_demand h.content (.inl rfl) h.close)
    (.bind (h.ends_closeLibrary caller) (ends_pure _))) (ends_pure ())

/-- A library that has gone out of use is closed if it is not closed already. -/
theorem IsLibrary.ends_finalize (h : s.IsLibrary v l) (caller : Caller) :
    Ends caller (finalize v) s () (if s.host.isOpen l then s.shut v l else s) := by
  obtain ⟨tag, -, hnote⟩ := h.closed
  have hown : s.own? v "_closed" =
      some (.mk tag (.quantity (.number (.truth !s.host.isOpen l)))) := by
    rw [own?_of_library h.content, hnote]
    rfl
  have hshut : s.isShut v = !s.host.isOpen l := by
    unfold isShut
    rw [hown, Option.map_some, truthOf_truth rfl]
  unfold finalize
  refine Ends.try_catch ?_ _
  refine .bind ends_get ?_
  have hleave := h.ends_leave caller
  rw [hshut]
  cases hopen : s.host.isOpen l with
  | false => exact ends_pure ()
  | true =>
    rw [hopen] at hleave
    exact hleave

end Session

end Milp
