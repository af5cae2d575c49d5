import QueryBindings.Log.Logger
import QueryBindings.Proofs.Log.LevelName
import QueryBindings.Proofs.Log.Outcome

/-!
# Configuring the logger again and again

A configuration takes place as a whole or not at all.  After any number of them the
logger has the level and the console of the last one that took place, and one handler.
-/

namespace QueryBindings.Log

variable {Console : Type}

theorem Handler.identity_lt_fresh {handlers : List (Handler Console)} {handler : Handler Console}
    (h : handler ∈ handlers) (console : Console) :
    handler.identity < (fresh handlers console).identity := by
  induction handlers with
  | nil => contradiction
  | cons first rest ih =>
      have hfresh : (fresh (first :: rest) console).identity =
          max (first.identity + 1) (fresh rest console).identity := rfl
      rw [hfresh]
      rcases List.mem_cons.1 h with rfl | hrest
      · omega
      · have hbound := ih hrest
        omega

theorem Handler.isSame_fresh {handlers : List (Handler Console)} {handler : Handler Console}
    (h : handler ∈ handlers) (console : Console) :
    (fresh handlers console).isSame handler = false := by
  have hbound := identity_lt_fresh h console
  rw [isSame, beq_eq_false_iff_ne]
  omega

/-- What is asked of the logger, and the value of the level variable at that moment. -/
structure Setup (Console : Type) where
  choice : Option LevelChoice
  environment : Option String
  console : Option Console

namespace Setup

def level (setup : Setup Console) : Except UnknownLevel Level :=
  resolveLevel setup.choice setup.environment

def Resolves (setup : Setup Console) : Prop :=
  ∃ level, setup.level = .ok level

def target (setup : Setup Console) (standardError : Console) : Console :=
  setup.console.getD standardError

theorem not_resolves {setup : Setup Console} {fault : UnknownLevel}
    (h : setup.level = .error fault) : ¬ setup.Resolves := by
  rintro ⟨level, hlevel⟩
  rw [h] at hlevel
  contradiction

end Setup

namespace Logger

theorem removeHandlers_eq (logger : Logger Console) :
    logger.removeHandlers = { logger with handlers := [] } := by
  obtain ⟨level, handlers⟩ := logger
  unfold removeHandlers
  dsimp only
  induction handlers with
  | nil => rfl
  | cons handler rest ih => rw [List.foldl_cons, removeHandler_head, ih]

def setUp (logger : Logger Console) (standardError : Console) (setup : Setup Console) :
    Logger Console × Traced UnknownLevel Unit :=
  logger.configure (setup.target standardError) setup.choice setup.environment

theorem setUp_of_error (logger : Logger Console) (standardError : Console)
    {setup : Setup Console} {fault : UnknownLevel} (h : setup.level = .error fault) :
    logger.setUp standardError setup = (logger, .fail fault) :=
  logger.configure_of_unknown _ h

theorem setUp_of_ok (logger : Logger Console) (standardError : Console)
    {setup : Setup Console} {level : Level} (h : setup.level = .ok level) :
    (logger.setUp standardError setup).1 =
        ⟨level, [.fresh logger.handlers (setup.target standardError)]⟩ ∧
      (logger.setUp standardError setup).2.outcome = .ok () := by
  have hlevel : resolveLevel setup.choice setup.environment = .ok level := h
  simp [setUp, configure, hlevel, removeHandlers_eq, setLevel, addHandler]

/-- The logger has the level, and one handler, which writes to the console. -/
def IsConfigured (logger : Logger Console) (level : Level) (console : Console) : Prop :=
  logger.level = level ∧ ∃ handler, logger.handlers = [handler] ∧ handler.console = console

/-- What one configuration does to a logger. -/
structure TakesSetup (logger : Logger Console) (standardError : Console)
    (setup : Setup Console) : Prop where
  /-- A level that does not resolve is reported, and everything stays as it was. -/
  fails : ∀ fault, setup.level = .error fault →
    logger.setUp standardError setup = (logger, .fail fault)
  /-- Otherwise the level is set, and a new handler is the only one. -/
  succeeds : ∀ level, setup.level = .ok level →
    (logger.setUp standardError setup).2.outcome = .ok () ∧
      (logger.setUp standardError setup).1.IsConfigured level (setup.target standardError) ∧
      ∀ handler ∈ (logger.setUp standardError setup).1.handlers, ∀ earlier ∈ logger.handlers,
        handler.isSame earlier = false

theorem takesSetup (logger : Logger Console) (standardError : Console) (setup : Setup Console) :
    logger.TakesSetup standardError setup := by
  refine ⟨fun fault h => logger.setUp_of_error standardError h, fun level h => ?_⟩
  obtain ⟨hconfigured, houtcome⟩ := logger.setUp_of_ok standardError h
  rw [hconfigured]
  refine ⟨houtcome, ⟨rfl, _, rfl, Handler.fresh_console _ _⟩, ?_⟩
  intro handler hhandler earlier hearlier
  rw [List.mem_singleton.1 hhandler]
  exact Handler.isSame_fresh hearlier _

section Runs

variable (standardError : Console)

/-- The logger after configurations one after the other, and what each of them yielded. -/
def setUpAll (logger : Logger Console) :
    List (Setup Console) → Logger Console × List (Traced UnknownLevel Unit)
  | [] => (logger, [])
  | setup :: rest =>
      let (next, run) := logger.setUp standardError setup
      let (final, runs) := next.setUpAll rest
      (final, run :: runs)

variable {standardError}

theorem setUpAll_of_not_resolves {setups : List (Setup Console)}
    (h : ∀ setup ∈ setups, ¬ setup.Resolves) (logger : Logger Console) :
    (logger.setUpAll standardError setups).1 = logger := by
  induction setups with
  | nil => rfl
  | cons setup rest ih =>
      have hrest := ih fun later hlater => h later (List.mem_cons_of_mem setup hlater)
      cases hlevel : setup.level with
      | ok level => exact absurd ⟨level, hlevel⟩ (h setup List.mem_cons_self)
      | error fault =>
          simp only [setUpAll, logger.setUp_of_error standardError hlevel]
          exact hrest

theorem outcomes_setUpAll (logger : Logger Console) (setups : List (Setup Console)) :
    (logger.setUpAll standardError setups).2.map (·.outcome) =
      setups.map fun setup => setup.level.map fun _ => () := by
  induction setups generalizing logger with
  | nil => rfl
  | cons setup rest ih =>
      have houtcome : (logger.setUp standardError setup).2.outcome =
          setup.level.map fun _ => () := by
        cases hlevel : setup.level with
        | ok level => exact (logger.setUp_of_ok standardError hlevel).2
        | error fault =>
            rw [logger.setUp_of_error standardError hlevel]
            rfl
      simp only [setUpAll, List.map_cons, houtcome, ih]

/-- The last configuration whose level resolves, and what the logger is like after all. -/
theorem exists_last_setUpAll {setups : List (Setup Console)}
    (h : ∃ setup ∈ setups, setup.Resolves) (logger : Logger Console) :
    ∃ before last after level, setups = before ++ last :: after ∧ last.level = .ok level ∧
      (∀ later ∈ after, ¬ later.Resolves) ∧
      (logger.setUpAll standardError setups).1.IsConfigured level (last.target standardError) := by
  induction setups generalizing logger with
  | nil =>
      obtain ⟨_, hmem, _⟩ := h
      contradiction
  | cons setup rest ih =>
      by_cases hlater : ∃ later ∈ rest, later.Resolves
      · obtain ⟨before, last, after, level, rfl, hlast⟩ :=
          ih hlater (logger.setUp standardError setup).1
        exact ⟨setup :: before, last, after, level, rfl, hlast⟩
      · have hafter : ∀ later ∈ rest, ¬ later.Resolves :=
          fun later hmem hresolves => hlater ⟨later, hmem, hresolves⟩
        obtain ⟨first, hmem, hresolves⟩ := h
        rcases List.mem_cons.1 hmem with rfl | hrest
        · obtain ⟨level, hlevel⟩ := hresolves
          refine ⟨[], first, rest, level, rfl, hlevel, hafter, ?_⟩
          simp only [setUpAll]
          rw [setUpAll_of_not_resolves hafter]
          exact ((logger.takesSetup standardError first).succeeds level hlevel).2.1
        · exact absurd ⟨first, hrest, hresolves⟩ hlater

end Runs

/-- What configurations one after the other make of a logger. -/
structure TakesSetups (logger : Logger Console) (standardError : Console)
    (setups : List (Setup Console)) : Prop where
  /-- Each of them fails exactly if its own level does not resolve. -/
  outcomes : (logger.setUpAll standardError setups).2.map (·.outcome) =
    setups.map fun setup => setup.level.map fun _ => ()
  unchanged : (∀ setup ∈ setups, ¬ setup.Resolves) →
    (logger.setUpAll standardError setups).1 = logger
  /-- The last one whose level resolves decides. -/
  configured : (∃ setup ∈ setups, setup.Resolves) →
    ∃ before last after level, setups = before ++ last :: after ∧ last.level = .ok level ∧
      (∀ later ∈ after, ¬ later.Resolves) ∧
      (logger.setUpAll standardError setups).1.IsConfigured level (last.target standardError)

/--
Configuring is atomic and can be repeated: whatever the logger was like, one configuration
takes place as a whole or not at all, and of many the last one that takes place decides.
Letter case and white space around a name make no difference to its level, and neither
does the variable if a level is given.
-/
theorem setUps_are_atomic (logger : Logger Console) (standardError : Console) :
    (∀ setup, logger.TakesSetup standardError setup) ∧
    (∀ setups, logger.TakesSetups standardError setups) ∧
    (∀ name other, SameName name other →
      (∀ environment environment',
        (resolveLevel (some (.named name)) environment).toOption =
          (resolveLevel (some (.named other)) environment').toOption) ∧
      (resolveLevel none (some name)).toOption = (resolveLevel none (some other)).toOption) ∧
    ∀ choice environment environment' console,
      logger.setUp standardError ⟨some choice, environment, console⟩ =
        logger.setUp standardError ⟨some choice, environment', console⟩ := by
  refine ⟨logger.takesSetup standardError, ?many, ?spelling, ?precedence⟩
  case many =>
    intro setups
    exact ⟨logger.outcomes_setUpAll setups, fun h => setUpAll_of_not_resolves h logger,
      fun h => exists_last_setUpAll h logger⟩
  case spelling =>
    intro name other hsame
    have hlevel := toOption_namedLevel_congr hsame
    exact ⟨fun _ _ => hlevel, hlevel⟩
  case precedence =>
    intro choice environment environment' console
    unfold setUp configure
    rw [resolveLevel_of_choice choice environment environment']
    rfl

/-- A logger with three handlers, two of them the same, after three configurations. -/
theorem setUps_are_atomic_after_failure :
    let logger : Logger Nat := ⟨Level.debug, [⟨4, 1⟩, ⟨4, 1⟩, ⟨9, 2⟩]⟩
    let loud : Setup Nat := ⟨some (.named "LOUD"), some "debug", some 3⟩
    let error : Setup Nat := ⟨none, some " eRRor\t", some 7⟩
    let setups := [⟨some (.named "info"), none, none⟩, error, loud]
    logger.setUp 0 loud = (logger, .fail ⟨"LOUD"⟩) ∧
      (logger.setUpAll 0 [loud]).1 = logger ∧
      (∃ before last after level, setups = before ++ last :: after ∧ last.level = .ok level ∧
        (∀ later ∈ after, ¬ later.Resolves) ∧
        (logger.setUpAll 0 setups).1.IsConfigured level (last.target 0)) ∧
      (logger.setUpAll 0 setups).1 = ⟨Level.error, [⟨11, 7⟩]⟩ ∧
      SameName " eRRor\t" "ERROR" ∧
      (resolveLevel (some (.named " eRRor\t")) none).toOption =
        (resolveLevel (some (.named "ERROR")) (some "debug")).toOption := by
  intro logger loud error setups
  obtain ⟨hone, hmany, hspelling, -⟩ := setUps_are_atomic logger 0
  have hloud : loud.level = .error ⟨"LOUD"⟩ := by decide
  have herror : error.level = .ok Level.error := by decide
  have hsame : SameName " eRRor\t" "ERROR" := by
    have hupper : Text.upper (Text.trim " eRRor\t") = "ERROR" := by decide
    rw [← hupper]
    exact (sameName_trim _).trans _ _ _ (sameName_upper _)
  refine ⟨(hone loud).fails _ hloud, (hmany [loud]).unchanged ?_, (hmany setups).configured ?_,
    by decide, hsame, (hspelling _ _ hsame).1 _ _⟩
  · intro setup hsetup
    rw [List.mem_singleton.1 hsetup]
    exact Setup.not_resolves hloud
  · exact ⟨error, by simp [setups], Level.error, herror⟩

end Logger

end QueryBindings.Log
