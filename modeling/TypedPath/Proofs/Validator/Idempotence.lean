import TypedPath.Proofs.Schema.Plain
import TypedPath.Proofs.Schema.Settling

namespace TypedPath

theorem Model.run_run {m : Model Shape} (settled : m.Settles) {x v : Value} (data : x.isData = true)
    (accepted : m.run false x = .ok v) : m.run false v = .ok v := by
  cases x with
  | map entries =>
    obtain ⟨r, validated, rfl⟩ := run_eq_ok_iff.mp accepted
    obtain ⟨filled, loose, reads, rfl⟩ := (validate_map_iff_reads settled.nodup).mp validated
    have stays := settled.stays data reads
    obtain ⟨filled', reads', given⟩ := settled.exists_reads stays (fun name => (filled name).given?)
      fun field member => (settled.holds data reads member).2.1
    have again := (validate_map_iff_reads settled.nodup).mpr ⟨filled', loose, reads', rfl⟩
    rw [reads.fields_assembled stays]
    refine run_eq_ok_iff.mpr ⟨_, again, ?_⟩
    rw [reads'.fields_assembled stays]
    exact Value.map_named_congr (fun field member => (given field member).1.symm) loose
  | record => cases data
  | _ => cases m; cases accepted

/-- A second validation changes nothing, neither a value nor its kind. -/
theorem Validator.validate_validate {m : Model Shape} (bare : m.IsBare) (tame : m.isTame = true) {x v : Value}
    (data : x.isData = true) (accepted : (Validator.model m false).validate x = .ok v) :
    (Validator.model m false).validate v = .ok v :=
  Model.run_run (m.settles bare tame) data accepted

def authorModel : Model Shape where
  name := "Author"
  mark := some 1
  above := []
  extra := .ignore
  fields := [⟨"name", .text, none, none, .free, none, none⟩,
    ⟨"rank", .int, some (.int 1), none, .free, none, none⟩]

def workModel : Model Shape where
  name := "Work"
  mark := some 2
  above := []
  extra := .allow
  fields := [⟨"volume", .optional .int, some .none, none, .free, none, none⟩,
    ⟨"authors", .list (.model authorModel), none, none, { Limits.free with longest := some 3 }, none, none⟩,
    ⟨"sort", .literal [.text "book", .text "paper"], some (.text "book"), none, .free, none, none⟩]

theorem Validator.validate_validate_work :
    let x : Value := .map (Value.keyed [("authors", .tuple [.map (Value.keyed [("name", .text "a")])]),
      ("year", .int 1999)])
    let v : Value := .map (Value.keyed [
      ("authors", .list [.map (Value.keyed [("name", .text "a"), ("rank", .int 1)])]),
      ("sort", .text "book"), ("year", .int 1999)])
    workModel.IsBare ∧ workModel.isTame = true ∧ x.isData = true ∧
      (Validator.model workModel false).validate x = .ok v ∧ (Validator.model workModel false).validate v = .ok v := by
  have authorBare : authorModel.IsBare := by
    refine ⟨by decide, ⟨rfl, rfl, rfl, nofun⟩, trivial, ⟨rfl, rfl, rfl, fun value default => ?_⟩, trivial, trivial⟩
    cases default
    exact ⟨rfl, _, rfl, rfl⟩
  have bare : workModel.IsBare := by
    refine ⟨by decide, ⟨rfl, rfl, rfl, ?_⟩, trivial, ⟨rfl, rfl, rfl, nofun⟩, ?_, ⟨rfl, rfl, rfl, ?_⟩, trivial, trivial⟩
    · exact fun value default => by cases default; exact ⟨rfl, _, rfl, rfl⟩
    · exact authorBare
    · exact fun value default => by cases default; exact ⟨rfl, _, rfl, rfl⟩
  have data : Value.isData (.map (Value.keyed [("authors", .tuple [.map (Value.keyed [("name", .text "a")])]),
    ("year", .int 1999)])) = true := by decide
  exact ⟨bare, by decide, data, rfl, validate_validate bare (by decide) data rfl⟩

def choiceModel : Model Shape where
  name := "Choice"
  mark := none
  above := []
  extra := .ignore
  fields := [⟨"n", .literal [.int 1, .int 100000000000000000000], none, none, .free, none, none⟩]

def boxModel : Model Shape where
  name := "Box"
  mark := some 1
  above := []
  extra := .ignore
  fields := [⟨"size", .int, none, none, .free, none, none⟩]

def filledBox : Filled :=
  let box : Value := .map [(.text "size", .int 1)]
  (⟨"box", box, box, box, true⟩, false)

def trayModel : Model Shape where
  name := "Tray"
  mark := some 2
  above := []
  extra := .ignore
  fields := [⟨"box", .model boxModel, some filledBox.1.value, none, .free, none, none⟩]

def traysModel : Model Shape where
  name := "Trays"
  mark := none
  above := []
  extra := .ignore
  fields := [⟨"trays", .list (.model trayModel), none, none,
    { Limits.free with most := some (.list [.record (trayModel.build [filledBox] [])]) }, none, none⟩]

/-- An integer beyond 64 bits is chosen by a decimal number and is then refused itself. A tray is at most the empty one as
    long as its box was filled in; once the box was supplied, the two cannot be compared. -/
theorem Validator.second_validation_refused :
    let number : Value := .map (Value.keyed [("n", .decimal (.finite ⟨false, 1, 20⟩))])
    let chosen : Value := .map (Value.keyed [("n", .int 100000000000000000000)])
    let tray : Value := .map (Value.keyed [("trays", .list [.map []])])
    let written : Value := .map (Value.keyed [
      ("trays", .list [.map (Value.keyed [("box", .map (Value.keyed [("size", .int 1)]))])])])
    (choiceModel.IsBare ∧ number.isData = true ∧ (Validator.model choiceModel false).validate number = .ok chosen ∧
      (Validator.model choiceModel false).validate chosen =
        .error (.rejected ⟨[⟨.intSize, some [.text "n"], some (.int 100000000000000000000)⟩], .schema⟩)) ∧
    (traysModel.IsBare ∧ tray.isData = true ∧ (Validator.model traysModel false).validate tray = .ok written ∧
      ∀ v, (Validator.model traysModel false).validate written ≠ .ok v) := by
  have boxBare : boxModel.IsBare := ⟨by decide, ⟨rfl, rfl, rfl, nofun⟩, trivial, trivial⟩
  have trayBare : trayModel.IsBare := by
    refine ⟨by decide, ⟨rfl, rfl, rfl, fun value default => ?_⟩, boxBare, trivial⟩
    cases default
    exact ⟨rfl, _, rfl, rfl⟩
  refine ⟨⟨⟨by decide, ⟨rfl, rfl, rfl, nofun⟩, trivial, trivial⟩, by decide, rfl, rfl⟩, ?_, by decide, rfl, fun _ => nofun⟩
  exact ⟨by decide, ⟨rfl, rfl, rfl, nofun⟩, trayBare, trivial⟩

end TypedPath
