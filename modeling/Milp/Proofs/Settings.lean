import Mathlib.Data.List.Basic
import Milp.Number
import Milp.Options
import Milp.Proofs.Success

/-!
# Settings

Options are read from a record by taking over the entries whose names are known. To know a name is
not to have a setting of it, though: all options answer to some names, and an entry of such a name is
taken over too. Most of these do no harm. But what stands for the record itself is refused or
replaced, and who asks for the settings gets what was put in under the name of that operation. So the
settings that the entries ask for are told exactly if nothing of the kind is among them:
`Options.tells_wanted`.
-/

namespace Milp.Options

variable {δ α : Type}

theorem lookup_eq_none_iff_notMem {fields : List (String × δ)} {key : String} :
    fields.lookup key = none ↔ key ∉ fields.map Prod.fst := by
  simp only [List.lookup_eq_none_iff, List.mem_map, not_exists, not_and, bne_iff_ne]
  exact forall₂_congr fun p _ => ne_comm

/-! ### Telling the settings -/

theorem get_eq_ok_iff {o : Options δ} {key : String} {v : δ} :
    o.get key = .ok v ↔ o.settings.lookup key = some v := by
  unfold get
  cases o.settings.lookup key <;> simp

theorem entries_eq_ok_iff {o : Options δ} {entries : List (String × δ)} :
    o.entries = .ok entries ↔ ∃ verbose timeLimit gap, o.settings.lookup "verbose" = some verbose ∧
      o.settings.lookup "time_limit" = some timeLimit ∧ o.settings.lookup "mip_rel_gap" = some gap ∧
      entries = [("verbose", verbose), ("time_limit", timeLimit), ("mip_rel_gap", gap)] := by
  simp only [← get_eq_ok_iff]
  unfold Options.entries
  cases o.get "verbose" <;> cases o.get "time_limit" <;> cases o.get "mip_rel_gap" <;>
    simp [bind, Except.bind, pure, Except.pure, eq_comm]

theorem report_eq_told_iff {o : Options δ} {r : Except DatumError (List (String × δ))} :
    o.report = .told r ↔ o.settings.lookup "to_dict" = none ∧ o.entries = r := by
  unfold report
  cases o.settings.lookup "to_dict" <;> simp

/-! ### Entries that are refused -/

section Entries

variable (q : Inquiry δ α) (typeOf : δ → Option Kind) (fieldsOf : δ → Option (List (String × δ)))

/-- **The entry is refused**: its name stands for the type of the record, for what refers to the
record or for all that it holds, and the value cannot stand in that place. -/
inductive Refuses : String × δ → OptionsError → Prop
  | type {v : δ} : typeOf v = none → Refuses ("__class__", v) (.fixedType (q.kind v).fullName)
  | references {v : δ} : Refuses ("__weakref__", v) (.readOnly "__weakref__")
  | whole {v : δ} : fieldsOf v = none → Refuses ("__dict__", v) (.notARecord (q.kind v).fullName)

/-- The error is that of the first entry that is refused. -/
def FirstRefused (entries : List (String × δ)) (e : OptionsError) : Prop :=
  ∃ before entry after, entries = before ++ entry :: after ∧
    (∀ x ∈ before, ∀ e, ¬ Refuses q typeOf fieldsOf x e) ∧ Refuses q typeOf fieldsOf entry e

/-- What is filed under the name of the record's type is the type of the given name, or no type. -/
def KeepsType (name : String) (entries : List (String × δ)) : Prop :=
  ∀ v kind, ("__class__", v) ∈ entries → typeOf v = some kind → kind.name = name

/-- The settings when an entry has been taken over that is not refused. -/
def settle (settings : List (String × δ)) (entry : String × δ) : List (String × δ) :=
  if entry.1 = "__dict__" then (fieldsOf entry.2).getD settings
  else if entry.1 ≠ "__class__" ∧
      ((settings.lookup entry.1).isSome || reserved.contains entry.1) = true then
    setField entry.1 entry.2 settings
  else settings

variable {q typeOf fieldsOf} {o : Options δ} {entry : String × δ} {d : List (String × δ)}
  {e : OptionsError}

theorem takeOver_of_refuses (h : Refuses q typeOf fieldsOf entry e) :
    takeOver q typeOf fieldsOf o entry = .error e := by
  cases h with
  | type h => simp [takeOver, knows, reserved, set, h]
  | references => simp [takeOver, knows, reserved, set]
  | whole h => simp [takeOver, knows, reserved, set, h]

theorem takeOver_of_accepted (h : ∀ e, ¬ Refuses q typeOf fieldsOf entry e)
    (htype : KeepsType typeOf o.kind [entry]) : takeOver q typeOf fieldsOf o entry =
      .ok { o with settings := settle fieldsOf o.settings entry } := by
  obtain ⟨key, v⟩ := entry
  by_cases hclass : key = "__class__"
  · subst hclass
    cases hkind : typeOf v with
    | none => exact absurd (.type hkind) (h _)
    | some kind =>
      have hname : kind.name = o.kind := htype v kind (List.mem_singleton_self _) hkind
      simp [takeOver, knows, reserved, set, settle, hkind, hname]
  by_cases hreferences : key = "__weakref__"
  · subst hreferences
    exact absurd .references (h _)
  by_cases hwhole : key = "__dict__"
  · subst hwhole
    cases hfields : fieldsOf v with
    | none => exact absurd (.whole hfields) (h _)
    | some fields => simp [takeOver, knows, reserved, set, settle, hfields]
  by_cases hknown : o.knows key = true
  · rw [takeOver, if_pos hknown, set, if_neg hclass, if_neg hreferences, if_neg hwhole, settle,
      if_neg hwhole, if_pos ⟨hclass, hknown⟩]
  · rw [takeOver, if_neg hknown, settle, if_neg hwhole, if_neg fun h => hknown h.2]

/-- **A run without refusals** settles one entry after the other. -/
theorem ofEntries_of_accepted (h : ∀ x ∈ d, ∀ e, ¬ Refuses q typeOf fieldsOf x e)
    (htype : KeepsType typeOf o.kind d) : ofEntries q typeOf fieldsOf o d =
      .ok { o with settings := d.foldl (settle fieldsOf) o.settings } := by
  induction d generalizing o with
  | nil => rfl
  | cons x d ih =>
    obtain ⟨hx, h⟩ := List.forall_mem_cons.1 h
    have hstep := takeOver_of_accepted (o := o) hx fun v kind hv =>
      htype v kind (List.mem_cons.2 (.inl (List.mem_singleton.1 hv)))
    rw [ofEntries, List.foldlM_cons, hstep]
    exact ih h fun v kind hv => htype v kind (List.mem_cons_of_mem _ hv)

theorem ofEntries_of_firstRefused (htype : KeepsType typeOf o.kind d)
    (h : FirstRefused q typeOf fieldsOf d e) : ofEntries q typeOf fieldsOf o d = .error e := by
  obtain ⟨before, entry, after, rfl, hbefore, hentry⟩ := h
  have hrun := ofEntries_of_accepted (o := o) hbefore fun v kind hv =>
    htype v kind (List.mem_append_left _ hv)
  rw [ofEntries] at hrun ⊢
  rw [List.foldlM_append, hrun, Except.ok_bind, List.foldlM_cons, takeOver_of_refuses hentry]
  rfl

theorem accepted_or_firstRefused (q : Inquiry δ α) (typeOf : δ → Option Kind)
    (fieldsOf : δ → Option (List (String × δ))) (d : List (String × δ)) :
    (∀ x ∈ d, ∀ e, ¬ Refuses q typeOf fieldsOf x e) ∨ ∃ e, FirstRefused q typeOf fieldsOf d e := by
  induction d with
  | nil => exact .inl fun x hx => absurd hx List.not_mem_nil
  | cons x d ih =>
    by_cases hx : ∃ e, Refuses q typeOf fieldsOf x e
    · obtain ⟨e, hx⟩ := hx
      exact .inr ⟨e, [], x, d, rfl, fun y hy => absurd hy List.not_mem_nil, hx⟩
    have hx : ∀ e, ¬ Refuses q typeOf fieldsOf x e := not_exists.1 hx
    obtain h | ⟨e, before, entry, after, rfl, hbefore, hentry⟩ := ih
    · exact .inl (List.forall_mem_cons.2 ⟨hx, h⟩)
    · exact .inr ⟨e, x :: before, entry, after, rfl, List.forall_mem_cons.2 ⟨hx, hbefore⟩, hentry⟩

/-- **Reading fails** with the error of the first entry that is refused, and for no other reason. -/
theorem ofEntries_eq_error_iff (htype : KeepsType typeOf o.kind d) :
    ofEntries q typeOf fieldsOf o d = .error e ↔ FirstRefused q typeOf fieldsOf d e := by
  refine ⟨fun h => ?_, ofEntries_of_firstRefused htype⟩
  obtain haccepted | ⟨e', he'⟩ := accepted_or_firstRefused q typeOf fieldsOf d
  · rw [ofEntries_of_accepted haccepted htype] at h
    exact nomatch h
  · rw [ofEntries_of_firstRefused htype he'] at h
    exact Except.error.inj h ▸ he'

/-! ### What the settings come from -/

variable (fieldsOf) in
/-- **What the settings come from**: those to begin with and all entries, or, if an entry takes the
place of all settings, the fields of its record and the entries behind it. -/
inductive Origin (start : List (String × δ)) :
    (entries base late : List (String × δ)) → Prop
  | start {d : List (String × δ)} : "__dict__" ∉ d.map Prod.fst → Origin start d start d
  | whole (before : List (String × δ)) {after fields : List (String × δ)} {v : δ} :
      fieldsOf v = some fields → "__dict__" ∉ after.map Prod.fst →
      Origin start (before ++ ("__dict__", v) :: after) fields after

/-- What a name stands for when entries have been taken over: nothing if it was not known, and
otherwise what the entries have filed under it, or else what it stood for before. -/
def held (base late : List (String × δ)) (key : String) : Option δ :=
  if (base.lookup key).isSome || reserved.contains key then (late.lookup key).or (base.lookup key)
  else none

variable {start base late : List (String × δ)} {key : String}

theorem Origin.foldl_settle (h : Origin fieldsOf start d base late) :
    d.foldl (settle fieldsOf) start = late.foldl (settle fieldsOf) base := by
  cases h with
  | start => rfl
  | whole before hfields =>
    rw [List.foldl_append, List.foldl_cons]
    simp [settle, hfields]

theorem exists_origin (h : ∀ x ∈ d, ∀ e, ¬ Refuses q typeOf fieldsOf x e)
    (start : List (String × δ)) : ∃ base late, Origin fieldsOf start d base late := by
  by_cases hwhole : "__dict__" ∈ d.map Prod.fst
  · -- the last of the entries under the name counts
    induction d with
    | nil => exact absurd hwhole List.not_mem_nil
    | cons x d ih =>
      obtain ⟨hx, h⟩ := List.forall_mem_cons.1 h
      by_cases hd : "__dict__" ∈ d.map Prod.fst
      · obtain ⟨base, late, horigin⟩ := ih h hd
        cases horigin with
        | start hnot => exact absurd hd hnot
        | whole before hfields hafter => exact ⟨_, _, .whole (x :: before) hfields hafter⟩
      · obtain ⟨key, v⟩ := x
        rw [List.map_cons, List.mem_cons] at hwhole
        obtain rfl : "__dict__" = key := hwhole.resolve_right hd
        cases hfields : fieldsOf v with
        | none => exact absurd (.whole hfields) (hx _)
        | some fields => exact ⟨fields, d, .whole [] hfields hd⟩
  · exact ⟨start, d, .start hwhole⟩

theorem held_congr {base' late' : List (String × δ)} (hbase : base.lookup key = base'.lookup key)
    (hlate : late.lookup key = late'.lookup key) : held base late key = held base' late' key := by
  rw [held, hbase, hlate, held]

theorem lookup_eq_none_of_unknown
    (h : ¬((base.lookup key).isSome || reserved.contains key) = true) : base.lookup key = none := by
  rw [Bool.or_eq_true, not_or, Option.not_isSome_iff_eq_none] at h
  exact h.1

theorem held_of_lookup_eq_none (h : late.lookup key = none) :
    held base late key = base.lookup key := by
  rw [held, h, Option.none_or]
  split
  next => rfl
  next hunknown => exact (lookup_eq_none_of_unknown hunknown).symm

theorem held_of_lookup_eq_some {v : δ} (h : base.lookup key = some v) :
    held base late key = some ((late.lookup key).getD v) := by
  rw [held, h]
  cases late.lookup key <;> rfl

theorem held_singleton_of_ne {name : String} {v : δ} (h : key ≠ name) :
    held base [(name, v)] key = base.lookup key :=
  held_of_lookup_eq_none (by rw [List.lookup_cons, beq_eq_false_iff_ne.2 h, List.lookup_nil])

theorem lookup_settle (hentry : entry.1 ≠ "__dict__") (hkey : key ≠ "__class__")
    (settings : List (String × δ)) :
    (settle fieldsOf settings entry).lookup key = held settings [entry] key := by
  obtain ⟨k, v⟩ := entry
  rw [settle, if_neg hentry]
  by_cases hk : key = k
  · subst hk
    rw [held, List.lookup_cons_self, Option.some_or]
    split
    next hknown => rw [lookup_setField, beq_self_eq_true, if_pos rfl, if_pos hknown.2]
    next hknown =>
      have hknown : ¬((settings.lookup key).isSome || reserved.contains key) = true :=
        fun h => hknown ⟨hkey, h⟩
      rw [if_neg hknown]
      exact lookup_eq_none_of_unknown hknown
  · have hne : (key == k) = false := beq_eq_false_iff_ne.2 hk
    rw [held_singleton_of_ne hk]
    split
    · rw [lookup_setField, hne, if_neg Bool.false_ne_true]
    · rfl

/-- **Every name stands for what it should** when entries under different names have been settled. -/
theorem lookup_foldl_settle (hd : (d.map Prod.fst).Nodup) (hwhole : "__dict__" ∉ d.map Prod.fst)
    (hkey : key ≠ "__class__") (base : List (String × δ)) :
    (d.foldl (settle fieldsOf) base).lookup key = held base d key := by
  induction d generalizing base with
  | nil => exact (held_of_lookup_eq_none rfl).symm
  | cons x d ih =>
    obtain ⟨k, v⟩ := x
    rw [List.map_cons, List.nodup_cons] at hd
    rw [List.map_cons, List.mem_cons, not_or] at hwhole
    have hstep : (settle fieldsOf base (k, v)).lookup key = held base [(k, v)] key :=
      lookup_settle (Ne.symm hwhole.1) hkey base
    rw [List.foldl_cons, ih hd.2 hwhole.2]
    by_cases hk : key = k
    · -- no entry behind this one has the name
      subst hk
      have hlate : d.lookup key = none := lookup_eq_none_iff_notMem.2 hd.1
      rw [held_of_lookup_eq_none hlate, hstep]
      exact held_congr rfl (by rw [List.lookup_cons_self, List.lookup_cons_self])
    · have hne : (key == k) = false := beq_eq_false_iff_ne.2 hk
      rw [held_singleton_of_ne hk] at hstep
      exact held_congr hstep (by rw [List.lookup_cons, hne])

/-! ### What is told -/

/-- **All that reading comes to** if no entry is refused: every name stands for what it should, the
name of the record's type apart. -/
theorem exists_ofEntries (hd : (d.map Prod.fst).Nodup) (htype : KeepsType typeOf o.kind d)
    (h : ∀ x ∈ d, ∀ e, ¬ Refuses q typeOf fieldsOf x e)
    (horigin : Origin fieldsOf o.settings d base late) :
    ∃ o', ofEntries q typeOf fieldsOf o d = .ok o' ∧ o'.kind = o.kind ∧
      ∀ key, key ≠ "__class__" → o'.settings.lookup key = held base late key := by
  refine ⟨_, ofEntries_of_accepted h htype, rfl, fun key hkey => ?_⟩
  rw [horigin.foldl_settle]
  cases horigin with
  | start hwhole => exact lookup_foldl_settle hd hwhole hkey _
  | whole before hfields hwhole =>
    rw [List.map_append, List.map_cons] at hd
    exact lookup_foldl_settle (List.nodup_cons.1 (List.nodup_append.1 hd).2.1).2 hwhole hkey _

section Wanted

variable [Scalar α] [Data δ α]

/-- **The settings that the entries ask for**: what is filed under the names of the three, and the
default for those under whose names nothing is filed. -/
def wanted (entries : List (String × δ)) : List (String × δ) :=
  [("verbose", (entries.lookup "verbose").getD (Data.ofNumber (Scalar.truth false : α))),
    ("time_limit", (entries.lookup "time_limit").getD Data.null),
    ("mip_rel_gap", (entries.lookup "mip_rel_gap").getD Data.null)]

variable (q typeOf fieldsOf d) in
/-- Options are read from the entries and tell, when they are asked, that these are the settings. -/
def Tells (settings : List (String × δ)) : Prop :=
  ∃ o, ofEntries q typeOf fieldsOf Options.default d = .ok o ∧ o.report = .told (.ok settings)

/-- What is told if every name stands for what it should. -/
theorem report_eq_wanted_iff
    (ho : ∀ key, key ≠ "__class__" → o.settings.lookup key = held base late key) :
    o.report = .told (.ok (wanted d)) ↔
      held base late "to_dict" = none ∧ ∀ s ∈ wanted d, held base late s.1 = some s.2 := by
  rw [report_eq_told_iff, entries_eq_ok_iff, ho _ (by decide), ho _ (by decide), ho _ (by decide),
    ho _ (by decide)]
  refine and_congr_right fun _ => ⟨?_, fun h => ?_⟩
  · rintro ⟨verbose, timeLimit, gap, hverbose, htimeLimit, hgap, heq⟩
    rw [heq]
    simp [hverbose, htimeLimit, hgap]
  · simp only [wanted, List.forall_mem_cons] at h
    exact ⟨_, _, _, h.1, h.2.1, h.2.2.1, rfl⟩

/-- **When the settings are told that the entries ask for.** -/
theorem tells_iff (hd : (d.map Prod.fst).Nodup) (htype : KeepsType typeOf "SolveOptions" d) :
    Tells q typeOf fieldsOf d (wanted d) ↔
      (∀ x ∈ d, ∀ e, ¬ Refuses q typeOf fieldsOf x e) ∧
        ∃ base late, Origin fieldsOf (Options.default : Options δ).settings d base late ∧
          held base late "to_dict" = none ∧ ∀ s ∈ wanted d, held base late s.1 = some s.2 := by
  constructor
  · rintro ⟨o, hread, htold⟩
    obtain haccepted | ⟨e, he⟩ := accepted_or_firstRefused q typeOf fieldsOf d
    · obtain ⟨base, late, horigin⟩ := exists_origin haccepted (Options.default : Options δ).settings
      obtain ⟨o', hread', -, ho'⟩ := exists_ofEntries hd htype haccepted horigin
      obtain rfl : o = o' := Except.ok.inj (hread.symm.trans hread')
      exact ⟨haccepted, base, late, horigin, (report_eq_wanted_iff ho').1 htold⟩
    · rw [ofEntries_of_firstRefused htype he] at hread
      exact nomatch hread
  · rintro ⟨haccepted, base, late, horigin, hheld⟩
    obtain ⟨o, hread, -, ho⟩ := exists_ofEntries hd htype haccepted horigin
    exact ⟨o, hread, (report_eq_wanted_iff ho).2 hheld⟩

/-- The names of what a record of options is made of, and of the operation that tells the settings. -/
def vital : List String := ["__class__", "__weakref__", "__dict__", "to_dict"]

/-- **Entries of other names do no harm**, whatever they are. -/
theorem tells_of_harmless (hd : (d.map Prod.fst).Nodup)
    (h : ∀ name ∈ vital, name ∉ d.map Prod.fst) : Tells q typeOf fieldsOf d (wanted d) := by
  have hnot {name : String} {v : δ} (hname : name ∈ vital) : (name, v) ∉ d :=
    fun hmem => h name hname (List.mem_map_of_mem hmem)
  have haccepted : ∀ x ∈ d, ∀ e, ¬ Refuses q typeOf fieldsOf x e := by
    intro x hx e hrefuses
    cases hrefuses with
    | type => exact hnot (by decide) hx
    | references => exact hnot (by decide) hx
    | whole => exact hnot (by decide) hx
  have hasked : d.lookup "to_dict" = none := lookup_eq_none_iff_notMem.2 (h _ (by decide))
  refine (tells_iff hd fun v kind hv => absurd hv (hnot (by decide))).2
    ⟨haccepted, _, d, .start (h _ (by decide)), ?_, ?_⟩
  · rw [held_of_lookup_eq_none hasked]
    rfl
  · simp only [wanted, List.forall_mem_cons]
    exact ⟨held_of_lookup_eq_some rfl, held_of_lookup_eq_some rfl, held_of_lookup_eq_some rfl,
      fun s hs => absurd hs List.not_mem_nil⟩

/-- Settings that have been told are read as they are. -/
theorem tells_of_report {settings : List (String × δ)} (h : o.report = .told (.ok settings)) :
    Tells q typeOf fieldsOf settings settings := by
  obtain ⟨verbose, timeLimit, gap, -, -, -, rfl⟩ := entries_eq_ok_iff.1 (report_eq_told_iff.1 h).2
  exact tells_of_harmless (by simp) (by simp [vital])

/-! ### Names that are not known -/

omit [Scalar α] [Data δ α] in
theorem lookup_foldl_settle_of_unknown (hreserved : reserved.contains key = false)
    (hwhole : ∀ v fields, ("__dict__", v) ∈ d → fieldsOf v = some fields →
      fields.lookup key = none)
    (hbase : base.lookup key = none) : (d.foldl (settle fieldsOf) base).lookup key = none := by
  induction d generalizing base with
  | nil => exact hbase
  | cons x d ih =>
    refine ih (fun v fields hv => hwhole v fields (List.mem_cons_of_mem _ hv)) ?_
    obtain ⟨k, v⟩ := x
    unfold settle
    split
    next hk =>
      obtain rfl : k = "__dict__" := hk
      cases hfields : fieldsOf v with
      | none => exact hbase
      | some fields => exact hwhole v fields List.mem_cons_self hfields
    split
    next hknown =>
      have hne : key ≠ k := by
        rintro rfl
        have hknown := hknown.2
        rw [hbase, hreserved] at hknown
        exact Bool.false_ne_true hknown
      rw [lookup_setField, if_neg (by simpa using hne), hbase]
    next => exact hbase

/-- **An entry whose name is not known when its turn comes** may as well be left out. -/
theorem ofEntries_of_unknown {before after : List (String × δ)} {v : δ}
    (htype : KeepsType typeOf "SolveOptions" before)
    (hkey : (Options.default : Options δ).knows key = false)
    (hwhole : ∀ w fields, ("__dict__", w) ∈ before → fieldsOf w = some fields →
      fields.lookup key = none) :
    ofEntries q typeOf fieldsOf Options.default (before ++ after) =
      ofEntries q typeOf fieldsOf Options.default (before ++ (key, v) :: after) := by
  simp only [ofEntries, List.foldlM_append]
  obtain haccepted | ⟨e, he⟩ := accepted_or_firstRefused q typeOf fieldsOf before
  · have hrun := ofEntries_of_accepted (o := Options.default) haccepted htype
    rw [ofEntries] at hrun
    rw [knows, Bool.or_eq_false_iff, Option.isSome_eq_false_iff, Option.isNone_iff_eq_none] at hkey
    have hlookup := lookup_foldl_settle_of_unknown hkey.2 hwhole hkey.1
    rw [hrun, Except.ok_bind, Except.ok_bind, List.foldlM_cons, takeOver, knows, hlookup, hkey.2]
    rfl
  · have hrun := ofEntries_of_firstRefused (o := Options.default) htype he
    rw [ofEntries] at hrun
    rw [hrun]
    rfl

/-- **What is told of settings that were read.** Reading entries with different names fails exactly if
one of them is refused, with the error of the first. The settings that the entries ask for are told
exactly if none is refused, nothing was put in under the name of the operation that tells them, and,
where a record took the place of all settings, its fields and the entries behind it come to the same.
So they are told if no entry has one of the four names, whatever the names of the others; an entry
with a name that is not known may be left out; and settings that were told are read and told again. -/
theorem tells_wanted (q : Inquiry δ α) (typeOf : δ → Option Kind)
    (fieldsOf : δ → Option (List (String × δ))) (hd : (d.map Prod.fst).Nodup)
    (htype : KeepsType typeOf "SolveOptions" d) :
    (∀ e, ofEntries q typeOf fieldsOf Options.default d = .error e ↔
      FirstRefused q typeOf fieldsOf d e) ∧
    (Tells q typeOf fieldsOf d (wanted d) ↔
      (∀ x ∈ d, ∀ e, ¬ Refuses q typeOf fieldsOf x e) ∧
        ∃ base late, Origin fieldsOf (Options.default : Options δ).settings d base late ∧
          held base late "to_dict" = none ∧ ∀ s ∈ wanted d, held base late s.1 = some s.2) ∧
    ((∀ name ∈ vital, name ∉ d.map Prod.fst) → Tells q typeOf fieldsOf d (wanted d)) ∧
    (∀ before key v after, d = before ++ (key, v) :: after →
      (Options.default : Options δ).knows key = false →
      (∀ w fields, ("__dict__", w) ∈ before → fieldsOf w = some fields →
        fields.lookup key = none) →
      ofEntries q typeOf fieldsOf Options.default (before ++ after) =
        ofEntries q typeOf fieldsOf Options.default d) ∧
    ∀ (o : Options δ) settings, o.report = .told (.ok settings) →
      Tells q typeOf fieldsOf settings settings := by
  refine ⟨fun e => ofEntries_eq_error_iff htype, tells_iff hd htype, tells_of_harmless hd, ?_,
    fun o settings => tells_of_report⟩
  rintro before key v after rfl hkey hwhole
  exact ofEntries_of_unknown (fun w kind hw => htype w kind (List.mem_append_left _ hw)) hkey hwhole

end Wanted

end Entries

/-! ### Settings among other entries -/

/-- The fields of a datum that is a record. -/
def recordFields? : Datum α → Option (List (String × Datum α))
  | .record fields => some fields
  | _ => none

/-- A setting, a name that is not known, and one that all options answer to. -/
def amongOthers : List (String × Datum Number) :=
  [("threads", .number (.whole 4)), ("verbose", .number (.truth true)), ("__doc__", .text "")]

theorem tells_amongOthers :
    ((amongOthers.map Prod.fst).Nodup ∧ KeepsType (fun _ => none) "SolveOptions" amongOthers) ∧
    (∀ name ∈ vital, name ∉ amongOthers.map Prod.fst) ∧
    Tells (Datum.inquiry fun _ => none) (fun _ => none) recordFields? amongOthers
      [("verbose", .number (.truth true)), ("time_limit", .null), ("mip_rel_gap", .null)] := by
  have hd : (amongOthers.map Prod.fst).Nodup := by decide
  have hharmless : ∀ name ∈ vital, name ∉ amongOthers.map Prod.fst := by decide
  have htype : KeepsType (fun _ => none) "SolveOptions" amongOthers := nofun
  obtain ⟨-, -, htells, -⟩ :=
    tells_wanted (Datum.inquiry fun _ => none) (fun _ => none) recordFields? hd htype
  exact ⟨⟨hd, htype⟩, hharmless, htells hharmless⟩

/-- An entry that none of the three settings has the name of keeps options from being read, and another
one keeps them from telling their settings. -/
theorem not_tells_vital :
    (∀ settings, ¬ Tells (Datum.inquiry fun _ => none) (fun _ => none) recordFields?
      [("__class__", (.number (.whole 1) : Datum Number))] settings) ∧
    ∀ settings, ¬ Tells (Datum.inquiry fun _ => none) (fun _ => none) recordFields?
      [("to_dict", (.number (.whole 1) : Datum Number))] settings := by
  constructor
  · rintro settings ⟨o, hread, -⟩
    exact nomatch hread
  · rintro settings ⟨o, hread, htold⟩
    obtain rfl := Except.ok.inj hread
    exact nomatch htold

end Milp.Options
