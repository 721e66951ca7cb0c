import Milp.Proofs.Serialization
import Mathlib.Data.List.Nodup

/-!
# The register of a problem

The variables of a register are different ones, and so are the names under which they are
registered. Such a list can be read from either side: by a name there is one variable, and by its
place in the list one name and one variable. What is filed under the names of a register, one after
the other, can be given to its variables in the same way.

Names are texts here.
-/

namespace Milp

/-! ### Lists with names -/

section Lookup

variable {β : Type}

/-- Different names find what was filed for them, by place. -/
theorem map_lookup_zip {names : List String} {values : List β} (hn : names.Nodup)
    (hl : values.length = names.length) :
    names.map (fun n => (names.zip values).lookup n) = values.map some := by
  induction names generalizing values with
  | nil =>
    obtain rfl := List.length_eq_zero_iff.1 hl
    rfl
  | cons n names ih =>
    obtain ⟨v, values, rfl⟩ := List.exists_cons_of_length_eq_add_one hl
    obtain ⟨hnot, hn⟩ := List.nodup_cons.1 hn
    have hl : values.length = names.length := Nat.succ.inj hl
    have htail : names.map (fun k => ((n :: names).zip (v :: values)).lookup k) =
        names.map fun k => (names.zip values).lookup k := by
      refine List.map_congr_left fun k hk => ?_
      have hne : (k == n) = false := by
        rw [beq_eq_false_iff_ne]
        rintro rfl
        exact hnot hk
      rw [List.zip_cons_cons, List.lookup_cons, hne]
    rw [List.map_cons, htail, ih hn hl, List.zip_cons_cons, List.lookup_cons_self, List.map_cons]

/-- In a list of fields under different names every field is found by its name. -/
theorem lookup_eq_of_mem {fields : List (String × β)} (hn : (fields.map Prod.fst).Nodup)
    {f : String × β} (hf : f ∈ fields) : fields.lookup f.1 = some f.2 := by
  induction fields with
  | nil => exact absurd hf List.not_mem_nil
  | cons g fields ih =>
    rw [List.map_cons, List.nodup_cons] at hn
    obtain rfl | hf := List.mem_cons.1 hf
    · exact List.lookup_cons_self
    · have hne : (f.1 == g.1) = false := by
        rw [beq_eq_false_iff_ne]
        intro h
        exact hn.1 (h ▸ List.mem_map_of_mem hf)
      rw [List.lookup_cons, hne]
      exact ih hn.2 hf

/-- A field is set at the end where its name is a new one. -/
theorem setField_of_notMem {fields : List (String × β)} {key : String} {v : β}
    (h : key ∉ fields.map Prod.fst) : setField key v fields = fields ++ [(key, v)] := by
  induction fields with
  | nil => rfl
  | cons f fields ih =>
    rw [List.map_cons, List.mem_cons, not_or] at h
    have hne : (f.1 == key) = false := by
      rw [beq_eq_false_iff_ne]
      exact fun e => h.1 e.symm
    rw [setField, hne, if_neg Bool.false_ne_true, ih h.2]
    rfl

/-- Fields under different names are filed as they are. -/
theorem fieldsOfList_eq {fields : List (String × β)} (hn : (fields.map Prod.fst).Nodup) :
    fieldsOfList fields = fields := by
  -- the fields that are filed already stand before the ones that are not
  have h : ∀ filed : List (String × β), ((filed ++ fields).map Prod.fst).Nodup →
      fields.foldl (fun acc f => setField f.1 f.2 acc) filed = filed ++ fields := by
    clear hn
    induction fields with
    | nil => exact fun filed _ => (List.append_nil filed).symm
    | cons f fields ih =>
      intro filed hn
      have hnot : f.1 ∉ filed.map Prod.fst := by
        intro hf
        rw [List.map_append, List.nodup_append] at hn
        exact hn.2.2 _ hf _ (List.mem_cons_self ..) rfl
      have hassoc : filed ++ f :: fields = (filed ++ [f]) ++ fields := by
        rw [List.append_assoc]
        rfl
      rw [hassoc] at hn
      rw [List.foldl_cons, setField_of_notMem hnot, ih _ hn, hassoc]
  exact h [] hn

end Lookup

/-! ### Changes of several variables -/

namespace Store

variable {ν δ κ : Type} [Inhabited (Variable ν δ)] {f : κ → Variable ν δ → Variable ν δ}

/-- Changes variables one after the other. -/
def modifyAll (s : Store ν δ) (rs : List (κ × Var)) (f : κ → Variable ν δ → Variable ν δ) :
    Store ν δ :=
  rs.foldl (fun s r => s.modify r.2 (f r.1)) s

theorem get_modifyAll_of_notMem {s : Store ν δ} {rs : List (κ × Var)} {x : Var}
    (h : x ∉ rs.map Prod.snd) : (s.modifyAll rs f).get x = s.get x := by
  induction rs generalizing s with
  | nil => rfl
  | cons r rs ih =>
    rw [List.map_cons, List.mem_cons, not_or] at h
    exact (ih h.2).trans (get_modify_of_ne h.1)

omit [Inhabited (Variable ν δ)] in
theorem size_modifyAll (s : Store ν δ) (rs : List (κ × Var)) :
    (s.modifyAll rs f).entries.size = s.entries.size := by
  induction rs generalizing s with
  | nil => rfl
  | cons r rs ih => exact (ih _).trans Array.size_modify

/-- Each of several different variables is changed once. -/
theorem get_modifyAll {s : Store ν δ} {rs : List (κ × Var)} (hn : (rs.map Prod.snd).Nodup)
    (hs : ∀ r ∈ rs, s.Has r.2) {r : κ × Var} (hr : r ∈ rs) :
    (s.modifyAll rs f).get r.2 = f r.1 (s.get r.2) := by
  induction rs generalizing s with
  | nil => exact absurd hr List.not_mem_nil
  | cons q rs ih =>
    rw [List.map_cons, List.nodup_cons] at hn
    obtain rfl | hr := List.mem_cons.1 hr
    · exact (get_modifyAll_of_notMem hn.1).trans (get_modify_self (hs _ List.mem_cons_self))
    · have hne : r.2 ≠ q.2 := fun e => hn.1 (e ▸ List.mem_map_of_mem hr)
      have hhas : ∀ r ∈ rs, (s.modify q.2 (f q.1)).Has r.2 := by
        intro r hr
        rw [Has, modify, Array.size_modify]
        exact hs r (List.mem_cons_of_mem _ hr)
      refine (ih hn.2 hhas hr).trans ?_
      rw [get_modify_of_ne hne]

end Store

/-! ### Registers -/

namespace Model

variable {δ α : Type} [Inhabited (Variable String δ)]

/-- **What a register is**: it has different variables under different names, each under the name
that it has. -/
structure Registered (m : Model String δ α) : Prop where
  names : m.problem.names.Nodup
  vars : m.problem.vars.Nodup
  has : ∀ r ∈ m.problem.register, m.store.Has r.2
  name : ∀ r ∈ m.problem.register, m.store.name r.2 = r.1

variable {m m' : Model String δ α}

theorem registered_empty (s : Store String δ) : (⟨s, .empty⟩ : Model String δ α).Registered :=
  ⟨List.nodup_nil, List.nodup_nil, fun _ h => absurd h List.not_mem_nil,
    fun _ h => absurd h List.not_mem_nil⟩

namespace Registered

/-- A register stays what it is while its variables are there under their names. -/
theorem of_names (h : m.Registered) (hp : m'.problem.register = m.problem.register)
    (hs : ∀ x ∈ m.problem.vars, m'.store.Has x ∧ m'.store.name x = m.store.name x) :
    m'.Registered := by
  have hmem : ∀ r ∈ m.problem.register, r.2 ∈ m.problem.vars := fun r hr => List.mem_map_of_mem hr
  refine ⟨?_, ?_, fun r hr => ?_, fun r hr => ?_⟩
  · rw [Problem.names, hp]
    exact h.names
  · rw [Problem.vars, hp]
    exact h.vars
  · rw [hp] at hr
    exact (hs r.2 (hmem r hr)).1
  · rw [hp] at hr
    rw [(hs r.2 (hmem r hr)).2, h.name r hr]

theorem of_extends (h : m.Registered) (hp : m'.problem.register = m.problem.register)
    (hs : m.store.Extends m'.store) : m'.Registered := by
  refine h.of_names hp fun x hx => ?_
  obtain ⟨r, hr, rfl⟩ := List.mem_map.1 hx
  exact ⟨hs.has _ (h.has r hr), hs.name _ (h.has r hr)⟩

/-- A name is that of a variable exactly if the variable is registered under it. -/
theorem find?_eq_some_iff (h : m.Registered) {n : String} {x : Var} :
    m.problem.find? n = some x ↔ (n, x) ∈ m.problem.register := by
  constructor
  · intro hx
    obtain ⟨l₁, l₂, hl, -⟩ := List.lookup_eq_some_iff.1 hx
    rw [hl]
    exact List.mem_append_right _ List.mem_cons_self
  · intro hx
    exact lookup_eq_of_mem h.names hx

/-- One more variable. -/
theorem push (h : m.Registered) {v : Variable String δ} (hv : m.problem.find? v.name = none) :
    (⟨m.store.push v, { m.problem with
      register := m.problem.register ++ [(v.name, m.store.fresh)] }⟩ :
      Model String δ α).Registered := by
  have hs := m.store.extends_push v
  have hfresh : ¬ m.store.Has m.store.fresh := Nat.lt_irrefl _
  have hnew : (m.store.push v).Has m.store.fresh := by
    rw [Store.Has, Store.push, Array.size_push]
    exact Nat.lt_succ_self _
  have hname : v.name ∉ m.problem.names := by
    intro hn
    obtain ⟨r, hr, hname⟩ := List.mem_map.1 hn
    rw [Problem.find?, ← hname, lookup_eq_of_mem h.names hr] at hv
    simp at hv
  have hvar : m.store.fresh ∉ m.problem.vars := by
    intro hx
    obtain ⟨r, hr, hvar⟩ := List.mem_map.1 hx
    exact hfresh (hvar ▸ h.has r hr)
  refine ⟨?_, ?_, ?_, ?_⟩
  · rw [Problem.names, List.map_append, List.map_singleton, ← List.concat_eq_append]
    exact h.names.concat hname
  · rw [Problem.vars, List.map_append, List.map_singleton, ← List.concat_eq_append]
    exact h.vars.concat hvar
  · rw [List.forall_mem_append, List.forall_mem_singleton]
    exact ⟨fun r hr => hs.has _ (h.has r hr), hnew⟩
  · rw [List.forall_mem_append, List.forall_mem_singleton]
    refine ⟨fun r hr => (hs.name _ (h.has r hr)).trans (h.name r hr), ?_⟩
    rw [Store.name, Store.get_push_fresh]

end Registered

end Model

end Milp
