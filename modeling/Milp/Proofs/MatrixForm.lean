import Milp.Matrix.Verdict
import Milp.Proofs.Coefficients
import Milp.Proofs.Registration

/-!
# The matrix form of a message

A message has a program: names become columns, terms the entries of rows, and offsets bounds on
them. The program asks for what the message asks for, `Message.program_asks`: at every point the
bounds and rows of the one hold where those of the other do, and the objectives come to the same, or
to opposites for a maximum.

Names are texts and numbers are rationals here.
-/

namespace Milp

open Program (dot weight)

/-! ### What programs and messages ask for -/

/-- The values lie between the bounds. -/
def Between (lower upper : List (Option Rat)) (ys : List Rat) : Prop :=
  List.Forall₂ (fun l y => ∀ b ∈ l, b ≤ y) lower ys ∧
    List.Forall₂ (fun u y => ∀ b ∈ u, y ≤ b) upper ys

/-- **What a program asks of a point**, but for integers: it lies between the bounds, and so does
what every row comes to. -/
def Program.Feasible (p : Program Rat) (x : List Rat) : Prop :=
  Between p.lower p.upper x ∧ ∀ b ∈ p.blocks, Between b.lower b.upper (b.rows.map (dot · x))

/-- There is one coefficient for every variable, in the objective and in all rows. -/
def Program.HasWidth (n : Nat) (p : Program Rat) : Prop :=
  p.objective.length = n ∧ ∀ b ∈ p.blocks, ∀ row ∈ b.rows, row.length = n

namespace Message

section Names

variable {α : Type} (M : Message String α)

/-- The names of the variables. -/
def names : List String := M.columns.map Column.name

/-- The names in a row are those of variables. -/
def Mentions (names : List String) (row : Row String α) : Prop := ∀ t ∈ row, t.1 ∈ names

/-- All terms name variables of the message. -/
structure Known : Prop where
  objective : Mentions M.names M.objective
  constraints : ∀ row ∈ M.constraints, Mentions M.names row
  equalities : ∀ row ∈ M.equalities, Mentions M.names row

/-- There are as many offsets as rows. -/
structure Fits : Prop where
  constraints : M.constraintOffsets.length = M.constraints.length
  equalities : M.equalitiesOffsets.length = M.equalities.length

end Names

variable (M : Message String Rat)

/-- A point gives every variable a value, in the order of the message. -/
def valuation (x : List Rat) (name : String) : Rat := ((M.names.zip x).lookup name).getD 0

/-- Every variable respects its bounds. -/
def Bounded (x : List Rat) : Prop :=
  List.Forall₂ (fun c y => (∀ b ∈ c.min, b ≤ y) ∧ ∀ b ∈ c.max, y ≤ b) M.columns x

/-- **The program asks for what the message asks for.** -/
structure Asks (p : Program Rat) : Prop where
  width : p.HasWidth M.columns.length
  integrality : p.integrality = M.columns.map Column.integer
  feasible : ∀ x : List Rat, x.length = M.columns.length →
    (p.Feasible x ↔ M.Bounded x ∧ M.Satisfied (M.valuation x))
  objective : ∀ x : List Rat, x.length = M.columns.length →
    dot p.objective x =
      match M.direction with
      | .minimize => M.objective.value (M.valuation x)
      | .maximize => -M.objective.value (M.valuation x)

end Message

/-! ### Columns of names -/

/-- The last place of a name. -/
def place (names : List String) (name : String) : Nat :=
  names.length - 1 - names.reverse.findIdx (name == ·)

theorem getElem?_place {names : List String} {name : String} (h : name ∈ names) :
    names[place names name]? = some name := by
  have hex : ∃ n ∈ names.reverse, (name == n) = true :=
    ⟨name, List.mem_reverse.2 h, beq_self_eq_true name⟩
  have hlt : names.reverse.findIdx (name == ·) < names.reverse.length :=
    List.findIdx_lt_length_of_exists hex
  have hfound := List.findIdx_getElem (w := hlt)
  rw [place, ← List.getElem?_reverse (by rwa [List.length_reverse] at hlt),
    List.getElem?_eq_getElem hlt, ← eq_of_beq hfound]

theorem place_lt {names : List String} {name : String} (h : name ∈ names) :
    place names name < names.length :=
  (List.getElem?_eq_some_iff.1 (getElem?_place h)).1

namespace Message

variable {M : Message String Rat} {x : List Rat}

theorem valuation_eq (hn : M.names.Nodup) (hx : x.length = M.columns.length) {name : String}
    (h : name ∈ M.names) : M.valuation x name = x.getD (place M.names name) 0 := by
  have hlength : x.length = M.names.length := hx.trans (List.length_map _).symm
  have hzip := congrArg (·[place M.names name]?) (map_lookup_zip hn hlength)
  simp only [List.getElem?_map, getElem?_place h, Option.map_some] at hzip
  obtain ⟨y, hy, hlookup⟩ := Option.map_eq_some_iff.1 hzip.symm
  rw [valuation, ← hlookup, List.getD_eq_getElem?_getD, hy]

/-! ### The program of a message -/

/-- The entries of a row. -/
def entries (names : List String) (row : Row String Rat) : List (Nat × Rat) :=
  row.map fun t => (place names t.1, t.2)

theorem lt_of_mem_entries {names : List String} {row : Row String Rat} (h : Mentions names row)
    {e : Nat × Rat} (he : e ∈ entries names row) : e.1 < names.length := by
  obtain ⟨t, ht, rfl⟩ := List.mem_map.1 he
  exact place_lt (h t ht)

theorem weight_entries (hn : M.names.Nodup) (hx : x.length = M.columns.length)
    {row : Row String Rat} (h : Mentions M.names row) :
    weight x (entries M.names row) = row.value (M.valuation x) := by
  unfold Program.weight entries Row.value
  rw [List.map_map]
  refine congrArg List.sum (List.map_congr_left fun t ht => ?_)
  rw [valuation_eq hn hx (h t ht)]
  rfl

/-- The rows of one kind of constraints, if there are any. -/
def block (names : List String) (rows : List (Row String Rat)) (offsets : List Rat)
    (equality : Bool) : List (RowBlock Rat) :=
  if rows.isEmpty then []
  else
    let upper := offsets.map fun a => some (-a)
    [⟨Program.matrixOf names.length (rows.map (entries names)),
      if equality then upper else List.replicate rows.length none, upper⟩]

/-- The program of a message. -/
def program (M : Message String Rat) : Program Rat where
  objective :=
    let c := Program.dense (· + ·) 0 M.names.length (entries M.names M.objective)
    match M.direction with
    | .minimize => c
    | .maximize => c.map fun a => -a
  integrality := M.columns.map Column.integer
  lower := M.columns.map Column.min
  upper := M.columns.map Column.max
  blocks := block M.names M.constraints M.constraintOffsets false ++
    block M.names M.equalities M.equalitiesOffsets true

end Message

/-! ### The program asks for what the message asks for -/

section Pairs

variable {β γ : Type} {R S : β → γ → Prop} {bs : List β} {cs : List γ}

theorem forall₂_and_iff : List.Forall₂ (fun b c => R b c ∧ S b c) bs cs ↔
    List.Forall₂ R bs cs ∧ List.Forall₂ S bs cs := by
  constructor
  · intro h
    exact ⟨h.imp fun _ _ h => h.1, h.imp fun _ _ h => h.2⟩
  · rintro ⟨hr, hs⟩
    induction hr with
    | nil => exact .nil
    | cons h _ ih =>
      cases hs with
      | cons h' hs => exact .cons ⟨h, h'⟩ (ih hs)

theorem forall₂_swap_iff {T : γ → β → Prop} (h : ∀ b c, R b c ↔ T c b) :
    List.Forall₂ R bs cs ↔ List.Forall₂ T cs bs :=
  ⟨fun hr => (hr.imp fun b c => (h b c).1).flip, fun ht => (ht.imp fun c b => (h b c).2).flip⟩

end Pairs

/-- Rows with no bound below and the negated offsets above. -/
theorem between_none_iff {ys offsets : List Rat} :
    Between (List.replicate ys.length none) (offsets.map fun a => some (-a)) ys ↔
      List.Forall₂ (fun y a => y + a ≤ 0) ys offsets := by
  have hnone : List.Forall₂ (fun (l : Option Rat) y => ∀ b ∈ l, b ≤ y)
      (List.replicate ys.length none) ys := by
    induction ys with
    | nil => exact .nil
    | cons y ys ih => exact .cons (fun b hb => absurd hb (Option.not_mem_none b)) ih
  rw [Between, and_iff_right hnone, List.forall₂_map_left_iff]
  refine forall₂_swap_iff fun a y => ?_
  simp only [Option.mem_some_iff, forall_eq', le_neg_iff_add_nonpos_right]

/-- Rows with the negated offsets on both sides. -/
theorem between_self_iff {ys offsets : List Rat} :
    Between (offsets.map fun a => some (-a)) (offsets.map fun a => some (-a)) ys ↔
      List.Forall₂ (fun y a => y + a = 0) ys offsets := by
  rw [Between, List.forall₂_map_left_iff, List.forall₂_map_left_iff, ← forall₂_and_iff]
  refine forall₂_swap_iff fun a y => ?_
  simp only [Option.mem_some_iff, forall_eq']
  rw [eq_neg_iff_add_eq_zero.symm, and_comm]
  exact le_antisymm_iff.symm

namespace Message

variable {M : Message String Rat} {x : List Rat}

theorem bounded_iff :
    M.Bounded x ↔ Between (M.columns.map Column.min) (M.columns.map Column.max) x := by
  rw [Between, List.forall₂_map_left_iff, List.forall₂_map_left_iff, ← forall₂_and_iff]
  exact Iff.rfl

/-- What the rows of a block come to. -/
theorem map_dot_rows (hn : M.names.Nodup) (hx : x.length = M.columns.length)
    {rows : List (Row String Rat)} (h : ∀ row ∈ rows, Mentions M.names row) :
    (Program.matrixOf M.names.length (rows.map (entries M.names))).map (dot · x) =
      rows.map (Row.value (M.valuation x)) := by
  have hlength : x.length = M.names.length := hx.trans (List.length_map _).symm
  rw [Program.map_dot_matrixOf hlength, List.map_map]
  · exact List.map_congr_left fun row hrow => weight_entries hn hx (h row hrow)
  · intro es hes e he
    obtain ⟨row, hrow, rfl⟩ := List.mem_map.1 hes
    exact lt_of_mem_entries (h row hrow) he

theorem block_iff (hn : M.names.Nodup) (hx : x.length = M.columns.length)
    {rows : List (Row String Rat)} (h : ∀ row ∈ rows, Mentions M.names row) {offsets : List Rat}
    (hl : offsets.length = rows.length) (equality : Bool) :
    (∀ b ∈ block M.names rows offsets equality,
        Between b.lower b.upper (b.rows.map (dot · x))) ↔
      List.Forall₂ (fun row a => if equality then row.value (M.valuation x) + a = 0
        else row.value (M.valuation x) + a ≤ 0) rows offsets := by
  cases hrows : rows.isEmpty with
  | true =>
    obtain rfl := List.isEmpty_iff.1 hrows
    obtain rfl := List.length_eq_zero_iff.1 hl
    simp [block]
  | false =>
    have hlength : (rows.map (Row.value (M.valuation x))).length = rows.length := List.length_map _
    simp only [block, hrows, Bool.false_eq_true, if_false, List.forall_mem_singleton]
    rw [map_dot_rows hn hx h]
    cases equality with
    | true => exact between_self_iff.trans List.forall₂_map_left_iff
    | false =>
      rw [← hlength]
      exact between_none_iff.trans List.forall₂_map_left_iff

theorem width_block {names : List String} {rows : List (Row String Rat)} {offsets : List Rat}
    {equality : Bool} {b : RowBlock Rat} (hb : b ∈ block names rows offsets equality)
    {row : List Rat} (hrow : row ∈ b.rows) : row.length = names.length := by
  unfold block at hb
  split at hb
  · exact absurd hb List.not_mem_nil
  · obtain rfl := List.mem_singleton.1 hb
    exact Program.length_of_mem_matrixOf hrow

/-- **The program of a message asks for what the message asks for.** -/
theorem program_asks (hn : M.names.Nodup) (hfits : M.Fits) (hknown : M.Known) :
    M.Asks M.program where
  width := by
    have hlength : M.names.length = M.columns.length := List.length_map _
    rw [← hlength]
    constructor
    · unfold program
      cases M.direction with
      | minimize => exact Program.length_dense ..
      | maximize => exact (List.length_map _).trans (Program.length_dense ..)
    · intro b hb row hrow
      obtain hb | hb := List.mem_append.1 hb
      · exact width_block hb hrow
      · exact width_block hb hrow
  integrality := rfl
  feasible := by
    intro x hx
    have hinequalities := block_iff hn hx hknown.constraints hfits.constraints false
    have hequalities := block_iff hn hx hknown.equalities hfits.equalities true
    rw [Program.Feasible, bounded_iff, Satisfied]
    refine and_congr_right fun _ => ?_
    rw [program, List.forall_mem_append, hinequalities, hequalities]
    exact Iff.rfl
  objective := by
    intro x hx
    have hlength : x.length = M.names.length := hx.trans (List.length_map _).symm
    have hdense := (Program.dot_dense hlength fun e he =>
      lt_of_mem_entries hknown.objective he).trans (weight_entries hn hx hknown.objective)
    unfold program
    cases M.direction with
    | minimize => exact hdense
    | maximize => exact (Program.dot_map_neg _ _).trans (congrArg Neg.neg hdense)

end Message

end Milp
