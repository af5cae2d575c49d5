import QueryBindings.Options.Load
import QueryBindings.Proofs.Json.Refusals
import QueryBindings.Proofs.Log.Outcome

/-!
# Loading options

What loading can end in.  Whatever the source, the options are those of the members of an
object, or there are no members and nothing is logged.
-/

namespace QueryBindings

/-- The text of the options goes beyond a limit of readers. -/
def OptionsFault.Reports (fault : OptionsFault) (limit : Json.Limit) : Prop :=
  ∃ text read, read.kind.Reports limit ∧ fault = .unreadable text read

theorem OptionsFault.Reports.limit?_eq {fault : OptionsFault} {limit : Json.Limit}
    (h : fault.Reports limit) : fault.limit? = some limit := by
  obtain ⟨text, read, hread, rfl⟩ := h
  exact hread.limit?_eq

namespace Options

open Json (JsonString Members Value)
open Log (Traced)

theorem of_checkTypesPath {value : Option Value} {path : JsonString}
    (h : checkTypesPath value = .ok path) :
    value = some (.text path) ∧ .scalar '"' ∉ path ∧ .scalar '\n' ∉ path := by
  unfold checkTypesPath at h
  split at h
  case h_3 other =>
    split at h
    · contradiction
    · split at h
      · contradiction
      next hfits =>
        cases h
        simp only [Bool.or_eq_true, List.contains_iff_mem, not_or] at hfits
        exact ⟨rfl, hfits⟩
  all_goals contradiction

theorem concernsOptions_of_checkTypesPath {value : Option Value} {fault : OptionsFault}
    (h : checkTypesPath value = .error fault) : fault.concernsOptions = true := by
  unfold checkTypesPath at h
  split at h
  case h_3 =>
    split at h
    · cases h
      rfl
    · split at h
      · cases h
        rfl
      · contradiction
  all_goals
    cases h
    rfl

theorem of_ofMembers {members : Members} {options : Options}
    (h : (ofMembers members).outcome = .ok options) :
    checkTypesPath (members.lookup typesPathKey) = .ok options.typesPath ∧
      options.custom = members.erase typesPathKey ∧
      (ofMembers members).records = options.custom.map unknownSetting := by
  unfold ofMembers at h ⊢
  cases hpath : checkTypesPath (members.lookup typesPathKey) with
  | error fault => simp [hpath, Traced.fail] at h
  | ok path =>
      simp only [hpath] at h
      cases h
      exact ⟨rfl, rfl, rfl⟩

theorem of_ofMembers_error {members : Members} {fault : OptionsFault}
    (h : (ofMembers members).outcome = .error fault) :
    (ofMembers members).records = [] ∧ fault.concernsOptions = true := by
  unfold ofMembers at h ⊢
  split at h
  case h_1 other hpath =>
    cases h
    exact ⟨rfl, concernsOptions_of_checkTypesPath hpath⟩
  case h_2 => contradiction

/-- The options of members, or a fault for which no members were found. -/
def IsOfMembers (loaded : Traced OptionsFault Options) : Prop :=
  (∃ members, loaded = ofMembers members) ∨
    ∃ fault, loaded = .fail fault ∧ (fault.concernsOptions = true ∨ ∃ limit, fault.Reports limit)

theorem isOfMembers_ofValue (value : Value) : IsOfMembers (ofValue value) := by
  unfold ofValue
  split
  · exact .inr ⟨_, rfl, .inl rfl⟩
  · exact .inl ⟨_, rfl⟩
  · exact .inr ⟨_, rfl, .inl rfl⟩

theorem concernsOptions_of_hasPlace {text : List Char} {read : Json.ReadFault}
    (h : read.kind.hasPlace = true) :
    (OptionsFault.unreadable text read).concernsOptions = true := by
  obtain ⟨kind, left⟩ := read
  cases kind <;> simp_all [OptionsFault.concernsOptions, OptionsFault.limit?,
    Json.FaultKind.limit?, Json.FaultKind.hasPlace]

theorem isOfMembers_ofText (text : List Char) (levels : Nat) :
    IsOfMembers (ofText text levels) := by
  unfold ofText
  split
  · exact .inr ⟨_, rfl, .inl rfl⟩
  · split
    case h_1 fault hread =>
      refine .inr ⟨_, rfl, ?_⟩
      rcases Json.readText_refusesOnly text levels fault hread with hplace | ⟨limit, hreports⟩
      · exact .inl (concernsOptions_of_hasPlace hplace)
      · exact .inr ⟨limit, text, fault, hreports, rfl⟩
    case h_2 value _ => exact isOfMembers_ofValue value

theorem isOfMembers_load (source : OptionsSource) (levels : Nat) :
    IsOfMembers (load source levels) := by
  unfold load
  split
  · unfold ofBytes
    split
    · exact .inr ⟨_, rfl, .inl rfl⟩
    · exact isOfMembers_ofText _ _
  · exact isOfMembers_ofText _ _
  · split
    · exact isOfMembers_ofText _ _
    · exact .inr ⟨_, rfl, .inl rfl⟩
  · exact isOfMembers_ofValue _

theorem exists_ofMembers_of_load {source : OptionsSource} {levels : Nat} {options : Options}
    (h : (load source levels).outcome = .ok options) :
    ∃ members, load source levels = ofMembers members := by
  rcases isOfMembers_load source levels with hmembers | ⟨fault, hfault, _⟩
  · exact hmembers
  · rw [hfault] at h
    contradiction

theorem of_load_error {source : OptionsSource} {levels : Nat} {fault : OptionsFault}
    (h : (load source levels).outcome = .error fault) :
    (load source levels).records = [] ∧
      (fault.concernsOptions = false ↔ ∃ limit, fault.Reports limit) := by
  have hlimit : (∃ limit, fault.Reports limit) → fault.concernsOptions = false := by
    rintro ⟨limit, hreports⟩
    simp [OptionsFault.concernsOptions, hreports.limit?_eq]
  rcases isOfMembers_load source levels with ⟨members, hmembers⟩ | ⟨other, hother, hkind⟩
  · rw [hmembers] at h ⊢
    obtain ⟨hrecords, hconcerns⟩ := of_ofMembers_error h
    exact ⟨hrecords, fun hnot => absurd hconcerns (by simp [hnot]), hlimit⟩
  · rw [hother] at h ⊢
    cases h
    refine ⟨rfl, fun hnot => ?_, hlimit⟩
    rcases hkind with hconcerns | hreports
    · exact absurd hconcerns (by simp [hnot])
    · exact hreports

theorem limit?_eq_some_iff_of_load {source : OptionsSource} {levels : Nat}
    {fault : OptionsFault} (h : (load source levels).outcome = .error fault)
    (limit : Json.Limit) : fault.limit? = some limit ↔ fault.Reports limit := by
  refine ⟨fun hlimit => ?_, fun hreports => hreports.limit?_eq⟩
  have hconcerns : fault.concernsOptions = false := by
    simp [OptionsFault.concernsOptions, hlimit]
  obtain ⟨other, hreports⟩ := (of_load_error h).2.1 hconcerns
  rw [hreports.limit?_eq] at hlimit
  cases hlimit
  exact hreports

theorem exists_of_scalars (bytes : Text.Bytes)
    (h : ((load (.bytes bytes)).outcome.toOption.any fun options =>
      (JsonString.toChars? options.typesPath).isSome) = true) :
    ∃ options, (load (.bytes bytes)).outcome = .ok options ∧
      (JsonString.toChars? options.typesPath).isSome = true := by
  cases hload : (load (.bytes bytes)).outcome with
  | ok options =>
      rw [hload] at h
      exact ⟨options, rfl, h⟩
  | error fault =>
      rw [hload] at h
      cases h

end Options

end QueryBindings
