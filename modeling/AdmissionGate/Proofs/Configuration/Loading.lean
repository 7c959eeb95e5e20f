import AdmissionGate.Configuration
import AdmissionGate.Proofs.Numeral.Reading
import AdmissionGate.Proofs.Text.Trimming

/-!
# Loading a configuration

A configuration is loaded if each variable that holds a number is not set or spells a number of its width, with blank
characters around it or not.  The other variables take any text.
-/

namespace AdmissionGate

/-- The variables that hold numbers, in the order in which they are read, with the widths of their numbers. -/
def Variable.numbers : List (Variable × Nat) :=
  [(port, 16), (readTimeout, 64), (writeTimeout, 64), (shutdownGrace, 64), (maxBodyBytes, 64), (healthPort, 16)]

namespace Configuration

/-- Whether a variable is not set or spells a number of some width. -/
def Fits (lookup : String → Option String) (setting : Variable) (width : Nat) : Prop :=
  ∀ value, lookup setting.name = some value →
    ∃ text digits, Text.Surrounds value.toList text ∧ Numeral.Spells width text digits

theorem Fits.readNumber_eq_ok {lookup : String → Option String} {setting : Variable} {width : Nat}
    (h : Fits lookup setting width) (standard : Nat) : ∃ n, readNumber lookup setting width standard = .ok n := by
  rw [readNumber]
  cases held : lookup setting.name with
  | none => exact ⟨standard, rfl⟩
  | some value =>
    obtain ⟨text, digits, surrounds, spells⟩ := h value held
    simp only [Text.trimChars_eq_iff.mpr surrounds, spells.parse_eq_ok]
    exact ⟨_, rfl⟩

theorem exists_load {lookup : String → Option String}
    (valid : ∀ number ∈ Variable.numbers, Fits lookup number.1 number.2) :
    ∃ configuration, load lookup = .ok configuration ∧
      configuration.filterKinds = ((lookup Variable.filterKinds.name).map KindList.split).getD [] := by
  simp only [Variable.numbers, List.forall_mem_cons, List.not_mem_nil, false_imp_iff, implies_true, and_true] at valid
  obtain ⟨port, readTimeout, writeTimeout, shutdownGrace, maxBodyBytes, healthPort⟩ := valid
  obtain ⟨_, port⟩ := port.readNumber_eq_ok standard.port
  obtain ⟨_, readTimeout⟩ := readTimeout.readNumber_eq_ok standard.readTimeout
  obtain ⟨_, writeTimeout⟩ := writeTimeout.readNumber_eq_ok standard.writeTimeout
  obtain ⟨_, shutdownGrace⟩ := shutdownGrace.readNumber_eq_ok standard.shutdownGrace
  obtain ⟨_, maxBodyBytes⟩ := maxBodyBytes.readNumber_eq_ok standard.maxBodyBytes
  obtain ⟨_, healthPort⟩ := healthPort.readNumber_eq_ok standard.healthPort
  rw [load, port, readTimeout, writeTimeout, shutdownGrace, maxBodyBytes, healthPort]
  exact ⟨_, rfl, rfl⟩

end Configuration

end AdmissionGate
