import AdmissionGate.Proofs.Configuration.Loading

/-!
# What loading a configuration comes to

If each variable that holds a number fits, the configuration says what the variables say, with standard values for those that are
not set.  If not, the first of them that does not fit is blamed, with its text as it was set.

Loading reads one number after another and stops at the first error, and what it has read does not influence what it reads next.
So it fails just where a search for the first misread variable ends, and nothing that comes after that place matters.
-/

namespace AdmissionGate.Configuration

/-- Which number a variable gives: the standard one if it is not set, or else the one that it spells, with blank characters
    around it or not. -/
inductive Gives (lookup : String → Option String) (setting : Variable) (width standard : Nat) : Nat → Prop where
  | unset : lookup setting.name = none → Gives lookup setting width standard standard
  | spelled {value : String} {text digits : List Char} :
      lookup setting.name = some value → Text.Surrounds value.toList text → Numeral.Spells width text digits →
      Gives lookup setting width standard (Nat.ofDigitChars 10 digits 0)

/-- Whether a configuration says what the variables say. -/
structure Reflects (lookup : String → Option String) (configuration : Configuration) : Prop where
  certificatePath : configuration.certificatePath =
    (lookup "WEBHOOK_CERT_PATH").getD "/etc/webhook/certs/tls.crt"
  keyPath : configuration.keyPath = (lookup "WEBHOOK_KEY_PATH").getD "/etc/webhook/certs/tls.key"
  port : Gives lookup .port 16 443 configuration.port
  filterKinds : configuration.filterKinds = ((lookup "WEBHOOK_FILTER_KINDS").map KindList.split).getD []
  readTimeout : Gives lookup .readTimeout 64 15 configuration.readTimeout
  writeTimeout : Gives lookup .writeTimeout 64 15 configuration.writeTimeout
  shutdownGrace : Gives lookup .shutdownGrace 64 5 configuration.shutdownGrace
  maxBodyBytes : Gives lookup .maxBodyBytes 64 3145728 configuration.maxBodyBytes
  healthPort : Gives lookup .healthPort 16 8080 configuration.healthPort

/-- Whether an error blames a variable: with the text as it was set, and the defect of the trimmed text. -/
structure Blames (lookup : String → Option String) (setting : Variable) (width : Nat) (e : ConfigurationError) : Prop where
  blamed : e.blamed = setting
  held : lookup setting.name = some e.value
  reason : ∃ text, Text.Surrounds e.value.toList text ∧ Numeral.parse width text = .error e.reason

/-- Whether a variable is the first one that does not fit, and which ones are read before it. -/
structure IsFirstMisfit (lookup : String → Option String) (before : List (Variable × Nat)) (number : Variable × Nat) :
    Prop where
  placed : ∃ after, Variable.numbers = before ++ number :: after
  earlier : ∀ fitting ∈ before, Fits lookup fitting.1 fitting.2
  misfit : ¬ Fits lookup number.1 number.2

section Reading

variable {lookup : String → Option String} {setting : Variable} {width standard : Nat} {e : ConfigurationError}

/-! ### Reading one number -/

theorem readNumber_eq_ok_iff {n : Nat} :
    readNumber lookup setting width standard = .ok n ↔ Gives lookup setting width standard n := by
  constructor
  · intro read
    rw [readNumber] at read
    split at read
    · rename_i absent
      cases read
      exact .unset absent
    · rename_i value held
      split at read
      · rename_i parsed
        cases read
        obtain ⟨digits, spells, rfl⟩ := Numeral.parse_eq_ok_iff.mp parsed
        exact .spelled held (Text.surrounds_trimChars value.toList) spells
      · cases read
  · intro given
    rw [readNumber]
    cases given with
    | unset absent => rw [absent]
    | spelled held surrounds spells =>
      rw [held]
      simp only [Text.trimChars_eq_iff.mpr surrounds, spells.parse_eq_ok]

theorem readNumber_eq_error_iff :
    readNumber lookup setting width standard = .error e ↔ Blames lookup setting width e := by
  constructor
  · intro read
    rw [readNumber] at read
    split at read
    · cases read
    · rename_i value held
      split at read
      · cases read
      · rename_i parsed
        cases read
        exact ⟨rfl, held, _, Text.surrounds_trimChars value.toList, parsed⟩
  · rintro ⟨rfl, held, text, surrounds, parsed⟩
    rw [readNumber, held]
    simp only [Text.trimChars_eq_iff.mpr surrounds, parsed]

theorem Gives.fits {n : Nat} (h : Gives lookup setting width standard n) : Fits lookup setting width := by
  intro value held
  cases h with
  | unset absent => cases absent.symm.trans held
  | spelled held' surrounds spells =>
    cases held'.symm.trans held
    exact ⟨_, _, surrounds, spells⟩

theorem fits_iff_forall_not_blames : Fits lookup setting width ↔ ∀ e, ¬ Blames lookup setting width e := by
  constructor
  · intro fits e blames
    obtain ⟨n, read⟩ := fits.readNumber_eq_ok 0
    cases read.symm.trans (readNumber_eq_error_iff.mpr blames)
  · intro blameless
    cases read : readNumber lookup setting width 0 with
    | ok n => exact (readNumber_eq_ok_iff.mp read).fits
    | error e => exact absurd (readNumber_eq_error_iff.mp read) (blameless e)

theorem Blames.congr {other : String → Option String} (same : other setting.name = lookup setting.name)
    (h : Blames lookup setting width e) : Blames other setting width e :=
  ⟨h.blamed, same.trans h.held, h.reason⟩

theorem Fits.congr {other : String → Option String} (same : other setting.name = lookup setting.name)
    (h : Fits lookup setting width) : Fits other setting width :=
  fun value held => h value (same.symm.trans held)

/-! ### The first variable that is misread -/

/-- The error that a variable with a number of some width leads to, if it is misread. -/
def misread? (lookup : String → Option String) (number : Variable × Nat) : Option ConfigurationError :=
  match readNumber lookup number.1 number.2 0 with
  | .ok _ => none
  | .error e => some e

theorem misread?_eq_some_iff {number : Variable × Nat} :
    misread? lookup number = some e ↔ Blames lookup number.1 number.2 e := by
  rw [← @readNumber_eq_error_iff lookup number.1 number.2 0, misread?]
  cases readNumber lookup number.1 number.2 0 <;> simp

theorem misread?_eq_none_iff {number : Variable × Nat} :
    misread? lookup number = none ↔ Fits lookup number.1 number.2 := by
  rw [fits_iff_forall_not_blames, Option.eq_none_iff_forall_ne_some]
  exact forall_congr' fun e => not_congr misread?_eq_some_iff

/-- What has been read does not matter to the errors of what is read next. -/
theorem bind_readNumber_eq_error_iff {α : Type} {rest : List (Variable × Nat)} {next : Nat → Except ConfigurationError α}
    (h : ∀ n, next n = .error e ↔ rest.findSome? (misread? lookup) = some e) :
    (readNumber lookup setting width standard >>= next) = .error e ↔
      ((setting, width) :: rest).findSome? (misread? lookup) = some e := by
  rw [List.findSome?_cons]
  cases read : readNumber lookup setting width standard with
  | ok n =>
    have fits : misread? lookup (setting, width) = none := misread?_eq_none_iff.mpr (readNumber_eq_ok_iff.mp read).fits
    rw [fits]
    exact h n
  | error first =>
    have blamed : misread? lookup (setting, width) = some first := misread?_eq_some_iff.mpr (readNumber_eq_error_iff.mp read)
    rw [blamed, Option.some_inj]
    constructor
    · intro failed
      cases failed
      rfl
    · rintro rfl
      rfl

theorem load_eq_error_iff : load lookup = .error e ↔ Variable.numbers.findSome? (misread? lookup) = some e := by
  rw [load, Variable.numbers]
  -- one step for each number, in the order in which they are read
  apply bind_readNumber_eq_error_iff
  intro port
  apply bind_readNumber_eq_error_iff
  intro readTimeout
  apply bind_readNumber_eq_error_iff
  intro writeTimeout
  apply bind_readNumber_eq_error_iff
  intro shutdownGrace
  apply bind_readNumber_eq_error_iff
  intro maxBodyBytes
  apply bind_readNumber_eq_error_iff
  intro healthPort
  simp [pure, Except.pure]

theorem exists_load_iff :
    (∃ configuration, load lookup = .ok configuration) ↔ ∀ number ∈ Variable.numbers, Fits lookup number.1 number.2 := by
  constructor
  · rintro ⟨configuration, loaded⟩
    have blameless : Variable.numbers.findSome? (misread? lookup) = none := by
      rw [Option.eq_none_iff_forall_ne_some]
      intro e misread
      cases loaded.symm.trans (load_eq_error_iff.mpr misread)
    intro number listed
    exact misread?_eq_none_iff.mp (List.findSome?_eq_none_iff.mp blameless number listed)
  · intro valid
    obtain ⟨configuration, loaded, -⟩ := exists_load valid
    exact ⟨configuration, loaded⟩

/-- The first variable that does not fit is blamed, whatever the variables hold that are read after it. -/
theorem IsFirstMisfit.exists_load_eq_error {before : List (Variable × Nat)} {number : Variable × Nat}
    (h : IsFirstMisfit lookup before number) :
    ∃ e, Blames lookup number.1 number.2 e ∧ ∀ other : String → Option String,
      (∀ read ∈ before ++ [number], other read.1.name = lookup read.1.name) → load other = .error e := by
  obtain ⟨after, placed⟩ := h.placed
  have blamed : ∃ e, Blames lookup number.1 number.2 e := by
    by_contra blameless
    exact h.misfit (fits_iff_forall_not_blames.mpr (not_exists.mp blameless))
  obtain ⟨e, blames⟩ := blamed
  refine ⟨e, blames, ?_⟩
  intro other same
  rw [load_eq_error_iff, List.findSome?_eq_some_iff]
  refine ⟨before, number, after, placed, misread?_eq_some_iff.mpr (blames.congr (same number (by simp))), ?_⟩
  intro fitting listed
  exact misread?_eq_none_iff.mpr ((h.earlier fitting listed).congr (same fitting (List.mem_append_left _ listed)))

theorem exists_isFirstMisfit (h : ¬ ∀ number ∈ Variable.numbers, Fits lookup number.1 number.2) :
    ∃ before number, IsFirstMisfit lookup before number := by
  -- the search ends at the place that is asked for
  cases search : Variable.numbers.findSome? (misread? lookup) with
  | none =>
    refine absurd (fun number listed => ?_) h
    exact misread?_eq_none_iff.mp (List.findSome?_eq_none_iff.mp search number listed)
  | some e =>
    obtain ⟨before, number, after, placed, blames, earlier⟩ := List.findSome?_eq_some_iff.mp search
    refine ⟨before, number, ⟨after, placed⟩, fun fitting listed => misread?_eq_none_iff.mp (earlier fitting listed), ?_⟩
    intro fits
    exact fits_iff_forall_not_blames.mp fits e (misread?_eq_some_iff.mp blames)

end Reading

/-! ### The configuration that is loaded -/

section Loading

variable {lookup : String → Option String} {configuration : Configuration}

theorem exists_of_bind_eq_ok {ε α β : Type} {first : Except ε α} {next : α → Except ε β} {b : β}
    (h : (first >>= next) = .ok b) : ∃ a, first = .ok a ∧ next a = .ok b := by
  cases first with
  | error e => cases h
  | ok a => exact ⟨a, rfl, h⟩

theorem reflects_of_load (loaded : load lookup = .ok configuration) : Reflects lookup configuration := by
  rw [load] at loaded
  obtain ⟨port, readsPort, loaded⟩ := exists_of_bind_eq_ok loaded
  obtain ⟨readTimeout, readsReadTimeout, loaded⟩ := exists_of_bind_eq_ok loaded
  obtain ⟨writeTimeout, readsWriteTimeout, loaded⟩ := exists_of_bind_eq_ok loaded
  obtain ⟨shutdownGrace, readsShutdownGrace, loaded⟩ := exists_of_bind_eq_ok loaded
  obtain ⟨maxBodyBytes, readsMaxBodyBytes, loaded⟩ := exists_of_bind_eq_ok loaded
  obtain ⟨healthPort, readsHealthPort, loaded⟩ := exists_of_bind_eq_ok loaded
  cases loaded
  exact {
    certificatePath := rfl
    keyPath := rfl
    port := readNumber_eq_ok_iff.mp readsPort
    filterKinds := rfl
    readTimeout := readNumber_eq_ok_iff.mp readsReadTimeout
    writeTimeout := readNumber_eq_ok_iff.mp readsWriteTimeout
    shutdownGrace := readNumber_eq_ok_iff.mp readsShutdownGrace
    maxBodyBytes := readNumber_eq_ok_iff.mp readsMaxBodyBytes
    healthPort := readNumber_eq_ok_iff.mp readsHealthPort }

/-- A configuration is loaded just if every number fits, and then it says what the variables say; otherwise the first variable
    that does not fit is blamed, whatever is set for those after it. -/
theorem load_law (lookup : String → Option String) :
    (Variable.numbers.map fun number => (number.1.name, number.2)) =
      [("WEBHOOK_PORT", 16), ("WEBHOOK_READ_TIMEOUT_SECS", 64), ("WEBHOOK_WRITE_TIMEOUT_SECS", 64),
        ("WEBHOOK_SHUTDOWN_GRACE_SECS", 64), ("WEBHOOK_MAX_BODY_BYTES", 64), ("HEALTH_PORT", 16)] ∧
    ((∃ configuration, load lookup = .ok configuration) ↔
      ∀ number ∈ Variable.numbers, Fits lookup number.1 number.2) ∧
    (∀ configuration, load lookup = .ok configuration → Reflects lookup configuration) ∧
    ((¬ ∀ number ∈ Variable.numbers, Fits lookup number.1 number.2) →
      ∃ before number e, IsFirstMisfit lookup before number ∧ Blames lookup number.1 number.2 e ∧
        ∀ other : String → Option String, (∀ read ∈ before ++ [number], other read.1.name = lookup read.1.name) →
          load other = .error e) := by
  refine ⟨rfl, exists_load_iff, fun configuration => reflects_of_load, ?_⟩
  intro invalid
  obtain ⟨before, number, first⟩ := exists_isFirstMisfit invalid
  obtain ⟨e, blames, loads⟩ := first.exists_load_eq_error
  exact ⟨before, number, e, first, blames, loads⟩

/-- Leading zeros and a plus sign are fine; of two variables that do not fit, the first one is blamed. -/
example :
    load (fun name => [("HEALTH_PORT", ""), ("WEBHOOK_MAX_BODY_BYTES", " 18446744073709551616"),
      ("WEBHOOK_PORT", "+0065535\t")].lookup name) =
        .error ⟨.maxBodyBytes, " 18446744073709551616", .tooLarge⟩ := by
  decide

end Loading

end AdmissionGate.Configuration
