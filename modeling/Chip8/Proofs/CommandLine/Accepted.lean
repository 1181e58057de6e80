import Chip8.CommandLine.Parse

namespace Chip8.CommandLine

/-! What is known of the options of a command line that was accepted. A setting is left blank
or has passed its check, in whatever order and however often the settings were given. -/

/-- Values of the settings that have passed their checks. -/
structure Checked (scale rate : Option Int) (scheme : Option String) : Prop where
  scale : ∀ value, scale = some value → 0 < value
  rate : ∀ value, rate = some value → 0 < value
  scheme : ∀ name, scheme = some name → ∃ scheme : Scheme, scheme.name = name

def Draft.Valid (draft : Draft) : Prop := Checked draft.scale draft.rate draft.scheme

def Options.Valid (options : Options) : Prop :=
  Checked options.scale options.rate options.scheme

theorem eq_ok_of_bind {ε α β : Type} {first : Except ε α} {next : α → Except ε β} {result : β}
    (success : first >>= next = .ok result) :
    ∃ value, first = .ok value ∧ next value = .ok result := by
  cases first with
  | error error => contradiction
  | ok value => exact ⟨value, rfl, success⟩

theorem eq_ok_of_map {ε α β : Type} {first : Except ε α} {rename : α → β} {result : β}
    (success : first.map rename = .ok result) :
    ∃ value, first = .ok value ∧ rename value = result := by
  cases first with
  | error error => contradiction
  | ok value => exact ⟨value, rfl, Except.ok.inj success⟩

theorem exists_scheme {name : String} (offered : schemeChoices.contains name = true) :
    ∃ scheme : Scheme, scheme.name = name := by
  rw [schemeChoices, List.contains_iff_mem] at offered
  simp only [List.mem_cons, List.not_mem_nil, or_false] at offered
  rcases offered with rfl | rfl | rfl | rfl | rfl
  · exact ⟨.amber, rfl⟩
  · exact ⟨.blue, rfl⟩
  · exact ⟨.classic, rfl⟩
  · exact ⟨.green, rfl⟩
  · exact ⟨.retro, rfl⟩

namespace Draft

variable {draft after : Draft}

theorem positiveFor_pos {setting : Setting} {text : String} {value : Int}
    (passed : positiveFor setting text = .ok value) : 0 < value := by
  rw [positiveFor] at passed
  split at passed
  · rename_i checked
    cases passed
    rw [positive] at checked
    split at checked
    · contradiction
    · split at checked
      · contradiction
      · rename_i large
        cases checked
        exact Int.lt_of_not_ge large
  · contradiction

theorem valid_default : Valid {} where
  scale value given := by
    cases given
    decide
  rate value given := by
    cases given
    decide
  scheme name given := by
    cases given
    exact ⟨.classic, rfl⟩

theorem Valid.blank (valid : draft.Valid) (setting : Setting) : (draft.blank setting).Valid := by
  cases setting with
  | scale => exact { valid with scale := nofun }
  | rate => exact { valid with rate := nofun }
  | scheme => exact { valid with scheme := nofun }
  | seed => exact valid

theorem Valid.assign {setting : Setting} {text : String} (valid : draft.Valid)
    (assigned : draft.assign setting text = .ok after) : after.Valid := by
  cases setting with
  | scale =>
      obtain ⟨value, passed, rfl⟩ := eq_ok_of_map assigned
      refine { valid with scale := fun given same => ?_ }
      cases same
      exact positiveFor_pos passed
  | rate =>
      obtain ⟨value, passed, rfl⟩ := eq_ok_of_map assigned
      refine { valid with rate := fun given same => ?_ }
      cases same
      exact positiveFor_pos passed
  | scheme =>
      simp only [Draft.assign] at assigned
      split at assigned
      · rename_i offered
        cases assigned
        refine { valid with scheme := fun given same => ?_ }
        cases same
        exact exists_scheme offered
      · contradiction
  | seed =>
      simp only [Draft.assign] at assigned
      split at assigned
      · cases assigned
        exact valid
      · contradiction

theorem Valid.set {setting : Setting} {text : String} (valid : draft.Valid)
    (done : draft.set setting text = .ok after) : after.Valid := by
  rw [Draft.set] at done
  split at done
  · cases done
    exact valid.blank setting
  · exact valid.assign done

theorem Valid.turnAllOn {switches : List Switch} (valid : draft.Valid)
    (done : draft.turnAllOn switches = .ok after) : after.Valid := by
  induction switches generalizing draft with
  | nil =>
      cases done
      exact valid
  | cons switch switches ih =>
      obtain ⟨next, turned, done⟩ := eq_ok_of_bind done
      refine ih ?_ done
      cases switch with
      | help => contradiction
      | debug =>
          cases turned
          exact valid

theorem Valid.fulfil {request : Request} {word : Option String} (valid : draft.Valid)
    (done : draft.fulfil request word = .ok after) : after.Valid := by
  rw [Draft.fulfil] at done
  split at done
  · exact valid.turnAllOn done
  · split at done
    · contradiction
    · obtain ⟨next, turned, done⟩ := eq_ok_of_bind done
      exact (valid.turnAllOn turned).set done

theorem Valid.read {words : List Word} (valid : draft.Valid)
    (done : draft.read words = .ok after) : after.Valid := by
  revert done
  fun_induction Draft.read draft words
  case case1 =>
    rintro ⟨⟩
    exact valid
  case case2 ih | case3 ih | case4 ih | case5 ih | case6 ih | case7 ih | case8 ih | case9 ih =>
    exact ih valid
  case case10 draft flag short attached text rest taking leaving =>
    intro done
    obtain ⟨request, _, done⟩ := eq_ok_of_bind done
    split at done
    · obtain ⟨next, fulfilled, done⟩ := eq_ok_of_bind done
      exact taking next (valid.fulfil fulfilled) done
    · obtain ⟨next, fulfilled, done⟩ := eq_ok_of_bind done
      exact leaving next (valid.fulfil fulfilled) done
  case case11 draft flag short attached rest other ih =>
    intro done
    obtain ⟨request, _, done⟩ := eq_ok_of_bind done
    obtain ⟨next, fulfilled, done⟩ := eq_ok_of_bind done
    exact ih next (valid.fulfil fulfilled) done

theorem Valid.finish {options : Options} (valid : draft.Valid)
    (done : draft.finish = .ok options) : options.Valid := by
  rw [Draft.finish] at done
  split at done
  · contradiction
  · split at done
    · cases done
      exact valid
    · contradiction

end Draft

/-- Whatever is accepted has passed all checks, blank settings apart. -/
theorem parse_valid {arguments : List String} {options : Options}
    (accepted : parse arguments = .ok options) : options.Valid := by
  obtain ⟨words, _, read⟩ := eq_ok_of_bind accepted
  obtain ⟨draft, read, finished⟩ := eq_ok_of_bind read
  exact (Draft.valid_default.read read).finish finished

end Chip8.CommandLine
