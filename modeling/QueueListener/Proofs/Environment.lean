import Mathlib.Logic.Function.Basic
import QueueListener.Environment
import QueueListener.Proofs.Text
/-!
# Blank variables

**A blank variable counts as not set, except for the two that name a mode.** The settings read
values and lists, and these do not tell a blank variable from one that is not set. The mode of
acknowledgement and the mode of delivery are read as they are written; a blank one is the name of no
mode.

* `Environment.cleared` — the environment without its blank variables;
* `Environment.settings_congr` — the settings depend on that and on the two modes only;
* `Environment.Spares`, `Environment.settings_spares` — once the modes are known, no error names
  them;
* `Environment.settings_ignores_blank_iff` — which variables may be blank.
-/

namespace QueueListener

/-- No number is below itself. -/
theorem Number.Binary64.lt_self (x : Number.Binary64) : x.lt x = false := by
  cases x with
  | finite => simp [lt]
  | infinite negative => cases negative <;> rfl
  | notANumber => rfl

namespace Environment

variable {α β : Type} {env env' : Environment} {key text : String}

/-! ### The environment without its blank variables -/

/-- The environment without its blank variables. -/
def cleared (env : Environment) : Environment :=
  fun key => (env key).filter fun text => !Text.isBlankText text

/-- A blank variable does not count. -/
theorem cleared_update_of_blank (env : Environment) (key : String)
    (blank : Text.isBlankText text = true) :
    cleared (Function.update env key (some text)) = cleared (Function.update env key none) := by
  funext other
  unfold cleared
  by_cases same : other = key
  · subst same
    rw [Function.update_self, Function.update_self, Option.filter_some, blank]
    rfl
  · rw [Function.update_of_ne same, Function.update_of_ne same]

theorem read_eq (env : Environment) (reader : Reader α) (key : String) :
    env.read reader key = match env.cleared key with
      | none => .ok none
      | some raw => match reader (Text.trim raw) with
        | .ok value => .ok (some value)
        | .error details => .error ⟨key, details⟩ := by
  unfold read cleared
  cases env key with
  | none => rfl
  | some raw =>
    rw [Option.filter_some]
    cases blank : Text.isBlankText raw with
    | false => cases found : reader (Text.trim raw) <;> simp [blank, found]
    | true => simp [blank]

theorem list_eq (env : Environment) (key : String) :
    env.list key = ((env.cleared key).map Text.listItems).getD [] := by
  unfold list cleared
  cases env key with
  | none => rfl
  | some raw =>
    rw [Option.filter_some]
    cases blank : Text.isBlankText raw with
    | false => rfl
    | true => exact Text.listItems_of_blank blank

theorem read_congr (same : env.cleared = env'.cleared) (reader : Reader α) (key : String) :
    env.read reader key = env'.read reader key := by
  rw [read_eq, read_eq, same]

theorem readOr_congr (same : env.cleared = env'.cleared) (reader : Reader α) (key : String)
    (default : α) : env.readOr reader key default = env'.readOr reader key default := by
  rw [readOr, readOr, read_congr same]

theorem millisOr_congr (same : env.cleared = env'.cleared) (key : String) (default : Duration) :
    env.millisOr key default = env'.millisOr key default := by
  rw [millisOr, millisOr, read_congr same]

theorem list_congr (same : env.cleared = env'.cleared) (key : String) :
    env.list key = env'.list key := by
  rw [list_eq, list_eq, same]

theorem recovery_congr (same : env.cleared = env'.cleared) : env.recovery = env'.recovery := by
  simp only [recovery, millisOr_congr same, readOr_congr same, read_congr same]

theorem ackMode_congr (same : env "LISTENER_ACK_MODE" = env' "LISTENER_ACK_MODE") :
    env.ackMode = env'.ackMode := by
  rw [ackMode, ackMode, textOr, textOr, same]

theorem reception_congr (same : env.cleared = env'.cleared)
    (mode : env "LISTENER_DELIVERY_MODE" = env' "LISTENER_DELIVERY_MODE") :
    env.reception = env'.reception := by
  have written : env.textOr "LISTENER_DELIVERY_MODE" "push" =
      env'.textOr "LISTENER_DELIVERY_MODE" "push" := by
    rw [textOr, textOr, mode]
  simp only [reception, written, millisOr_congr same]

/-- **The settings depend on the variables that are not blank, and on the two modes.** -/
theorem settings_congr (same : env.cleared = env'.cleared)
    (acknowledged : env.ackMode = env'.ackMode) (received : env.reception = env'.reception) :
    env.settings = env'.settings := by
  simp only [settings, acknowledged, received, readOr_congr same, millisOr_congr same,
    read_congr same, list_congr same, recovery_congr same]

/-! ### What an error names -/

/-- The variables that name a mode. -/
def modes : List String := ["LISTENER_ACK_MODE", "LISTENER_DELIVERY_MODE"]

/-- An error that is not about a mode. -/
def Spares (result : Except ReadFault α) : Prop :=
  ∀ fault, result = .error fault → fault.key ∉ modes

theorem spares_ok (a : α) : Spares (.ok a) := fun _ failed => by cases failed

theorem Spares.bind {first : Except ReadFault α} {next : α → Except ReadFault β}
    (spares : Spares first) (rest : ∀ a, Spares (next a)) : Spares (first >>= next) := by
  cases first with
  | ok a => exact rest a
  | error fault =>
    intro fault' failed
    cases failed
    exact spares fault rfl

/-- An error in the text of a variable names the variable. -/
theorem read_spares (env : Environment) (reader : Reader α) (other : key ∉ modes) :
    Spares (env.read reader key) := by
  intro fault failed
  rw [read_eq] at failed
  split at failed
  next => cases failed
  next raw _ =>
    split at failed
    next => cases failed
    next details _ =>
      cases failed
      exact other

theorem readOr_spares (env : Environment) (reader : Reader α) (other : key ∉ modes) (default : α) :
    Spares (env.readOr reader key default) :=
  (env.read_spares reader other).bind fun _ => spares_ok _

theorem millisOr_spares (env : Environment) (other : key ∉ modes) (default : Duration) :
    Spares (env.millisOr key default) :=
  (env.read_spares _ other).bind fun _ => spares_ok _

theorem recovery_spares (env : Environment) : Spares env.recovery := by
  refine (env.millisOr_spares (by decide) _).bind fun initial => ?_
  refine (env.readOr_spares _ (by decide) _).bind fun multiplier => ?_
  refine (env.read_spares _ (by decide)).bind fun limit => ?_
  split
  next => exact (env.millisOr_spares (by decide) _).bind fun _ => spares_ok _
  next => exact spares_ok _

/-- **Once the modes are known, no error of the settings names them.** -/
theorem settings_spares {mode : AckMode} {reception : Reception}
    (acknowledged : env.ackMode = .ok mode) (received : env.reception = .ok reception) :
    Spares env.settings := by
  unfold settings
  rw [acknowledged, received]
  refine (spares_ok mode).bind fun _ => (spares_ok reception).bind fun _ => ?_
  refine (env.readOr_spares _ (by decide) _).bind fun least => ?_
  refine (env.readOr_spares _ (by decide) _).bind fun most => ?_
  refine (env.readOr_spares _ (by decide) _).bind fun transacted => ?_
  refine (env.readOr_spares _ (by decide) _).bind fun batchSize => ?_
  refine (env.readOr_spares _ (by decide) _).bind fun prefetch => ?_
  refine (env.millisOr_spares (by decide) _).bind fun receiveTimeout => ?_
  refine (env.read_spares _ (by decide)).bind fun idleEvent => ?_
  refine (env.readOr_spares _ (by decide) _).bind fun activeTrigger => ?_
  refine (env.readOr_spares _ (by decide) _).bind fun idleTrigger => ?_
  refine (env.millisOr_spares (by decide) _).bind fun startInterval => ?_
  refine (env.millisOr_spares (by decide) _).bind fun stopInterval => ?_
  refine (env.millisOr_spares (by decide) _).bind fun monitorInterval => ?_
  refine env.recovery_spares.bind fun recovery => ?_
  refine (env.readOr_spares _ (by decide) _).bind fun missingFatal => ?_
  refine (env.readOr_spares _ (by decide) _).bind fun authenticationFatal => ?_
  refine (env.millisOr_spares (by decide) _).bind fun shutdownTimeout => ?_
  refine (env.millisOr_spares (by decide) _).bind fun declarationRetry => ?_
  exact (env.readOr_spares _ (by decide) _).bind fun requeueRejected => spares_ok _

/-! ### Modes -/

/-- A blank mode of acknowledgement is not read. -/
theorem ackMode_of_blank (set : env "LISTENER_ACK_MODE" = some text)
    (blank : Text.isBlankText text = true) :
    env.ackMode = .error ⟨"LISTENER_ACK_MODE", "Matching variant not found"⟩ := by
  have unread : AckMode.read? text = none := by
    rw [AckMode.read?, List.find?_eq_none]
    intro mode _
    have other : Text.sameIgnoringCase mode.text text = false :=
      Text.sameIgnoringCase_of_blank blank (by cases mode <;> decide)
    rw [other]
    exact Bool.false_ne_true
  rw [ackMode, textOr, set, Option.getD_some, unread]

/-- A blank mode of delivery is not read. -/
theorem reception_of_blank (set : env "LISTENER_DELIVERY_MODE" = some text)
    (blank : Text.isBlankText text = true) :
    env.reception = .error ⟨"LISTENER_DELIVERY_MODE",
      "expected 'push' or 'pull', got '" ++ text ++ "'"⟩ := by
  have unlike (name : String) (written : Text.isBlankText name = false) : text ≠ name := by
    rintro rfl
    rw [blank] at written
    cases written
  simp only [reception, textOr, set, Option.getD_some, Text.lower_of_blank blank,
    if_neg (unlike "push" (by decide)), if_neg (unlike "pull" (by decide))]

theorem ackMode_of_unset (unset : env "LISTENER_ACK_MODE" = none) : env.ackMode = .ok .auto := by
  rw [ackMode, textOr, unset]
  decide

theorem reception_of_unset (unset : env "LISTENER_DELIVERY_MODE" = none) :
    env.reception = .ok .push := by
  have written : Text.lower "push" = "push" := by decide
  rw [reception, textOr, unset, Option.getD_none, written]
  rfl

/-- An error in the mode of delivery is not about acknowledgements. -/
theorem reception_fault {fault : ReadFault} (failed : env.reception = .error fault) :
    fault.key ≠ "LISTENER_ACK_MODE" := by
  unfold reception at failed
  dsimp only at failed
  split at failed
  next => cases failed
  next =>
    split at failed
    next =>
      have other : "LISTENER_POLL_INTERVAL_MS" ∉ modes := by decide
      have spares := (env.millisOr_spares other (Duration.ofMillis 100)).bind fun interval =>
        spares_ok (Reception.poll interval)
      intro named
      exact spares fault failed (by rw [named]; decide)
    next =>
      cases failed
      exact show "LISTENER_DELIVERY_MODE" ≠ "LISTENER_ACK_MODE" by decide

/-- Without a mode of acknowledgement there are no settings. -/
theorem settings_of_ackMode {fault : ReadFault} (failed : env.ackMode = .error fault) :
    env.settings = .error fault := by
  rw [settings, failed]
  rfl

/-- Without a mode of delivery there are no settings either. -/
theorem settings_of_reception {mode : AckMode} {fault : ReadFault}
    (acknowledged : env.ackMode = .ok mode) (failed : env.reception = .error fault) :
    env.settings = .error fault := by
  rw [settings, acknowledged, failed]
  rfl

/-! ### No variable at all -/

theorem recovery_of_unset : recovery (fun _ => none) = .ok .standard := by
  simp only [recovery, millisOr, readOr, read, bind, Except.bind, pure, Except.pure,
    Option.getD_none, Number.Binary64.lt_self, Bool.false_eq_true, if_false]
  rfl

/-- Without any variable the settings are the standard ones. -/
theorem settings_of_unset : settings (fun _ => none) = .ok {} := by
  simp only [settings, ackMode_of_unset, reception_of_unset, recovery_of_unset, millisOr, readOr,
    read, list, bind, Except.bind, pure, Except.pure]
  rfl

/-! ### Which variables may be blank -/

/-- What is wrong with a blank mode of acknowledgement is not wrong without it. -/
theorem settings_blank_ackMode_ne (env : Environment) (blank : Text.isBlankText text = true) :
    settings (Function.update env "LISTENER_ACK_MODE" (some text)) ≠
      settings (Function.update env "LISTENER_ACK_MODE" none) := by
  intro same
  rw [settings_of_ackMode (ackMode_of_blank (Function.update_self ..) blank)] at same
  have acknowledged := ackMode_of_unset (Function.update_self "LISTENER_ACK_MODE" none env)
  cases received : reception (Function.update env "LISTENER_ACK_MODE" none) with
  | ok mode => exact settings_spares acknowledged received _ same.symm (by decide)
  | error fault =>
    rw [settings_of_reception acknowledged received] at same
    cases same
    exact reception_fault received rfl

/-- A blank mode of delivery does not matter only where it is not looked at. -/
theorem settings_blank_reception_iff (env : Environment) (blank : Text.isBlankText text = true) :
    settings (Function.update env "LISTENER_DELIVERY_MODE" (some text)) =
      settings (Function.update env "LISTENER_DELIVERY_MODE" none) ↔
        ∃ fault, env.ackMode = .error fault := by
  have apart (value : Option String) :
      ackMode (Function.update env "LISTENER_DELIVERY_MODE" value) = env.ackMode :=
    ackMode_congr (Function.update_of_ne (by decide) ..)
  constructor
  · intro same
    cases acknowledged : env.ackMode with
    | error fault => exact ⟨fault, rfl⟩
    | ok mode =>
      rw [settings_of_reception ((apart _).trans acknowledged)
        (reception_of_blank (Function.update_self ..) blank)] at same
      have named : "LISTENER_DELIVERY_MODE" ∈ modes := by decide
      exact absurd named (settings_spares ((apart _).trans acknowledged)
        (reception_of_unset (Function.update_self ..)) _ same.symm)
  · rintro ⟨fault, failed⟩
    rw [settings_of_ackMode ((apart _).trans failed), settings_of_ackMode ((apart _).trans failed)]

/-- Every other variable may be blank. -/
theorem settings_blank_of_not_mode (env : Environment) (blank : Text.isBlankText text = true)
    (other : key ∉ modes) :
    settings (Function.update env key (some text)) = settings (Function.update env key none) := by
  have elsewhere : ∀ mode ∈ modes,
      Function.update env key (some text) mode = Function.update env key none mode := by
    intro mode listed
    have apart : mode ≠ key := fun same => other (same ▸ listed)
    rw [Function.update_of_ne apart, Function.update_of_ne apart]
  have cleared := cleared_update_of_blank env key blank
  apply settings_congr cleared
  · exact ackMode_congr (elsewhere _ (by decide))
  · exact reception_congr cleared (elsewhere _ (by decide))

/-- **A blank variable counts as not set, whatever the others are, except for the modes.** A blank
mode of acknowledgement is an error always, and a blank mode of delivery unless the mode of
acknowledgement is an error before it. -/
theorem settings_ignores_blank_iff (env : Environment) (key : String) {text : String}
    (blank : Text.isBlankText text = true) :
    settings (Function.update env key (some text)) = settings (Function.update env key none) ↔
      key ≠ "LISTENER_ACK_MODE" ∧
        (key = "LISTENER_DELIVERY_MODE" → ∃ fault, env.ackMode = .error fault) := by
  by_cases acknowledges : key = "LISTENER_ACK_MODE"
  · subst acknowledges
    exact iff_of_false (settings_blank_ackMode_ne env blank) fun ⟨other, _⟩ => other rfl
  by_cases delivers : key = "LISTENER_DELIVERY_MODE"
  · subst delivers
    rw [settings_blank_reception_iff env blank]
    simp
  · have other : key ∉ modes := by simp [modes, acknowledges, delivers]
    exact iff_of_true (settings_blank_of_not_mode env blank other)
      ⟨acknowledges, fun named => absurd named delivers⟩

/-- A blank prefetch is the prefetch that holds without one. -/
theorem settings_ignores_blank_iff_prefetch :
    Text.isBlankText " \t" = true ∧
      settings (Function.update (fun _ => none) "LISTENER_PREFETCH" (some " \t")) =
        settings (Function.update (fun _ => none) "LISTENER_PREFETCH" none) := by
  have blank : Text.isBlankText " \t" = true := by decide
  exact ⟨blank, (settings_ignores_blank_iff _ _ blank).mpr
    ⟨by decide, fun named => absurd named (by decide)⟩⟩

/-- **A blank mode of acknowledgement does not count as unset**: it is an error where there are
settings without it. -/
theorem blank_ackMode_is_an_error :
    settings (Function.update (fun _ => none) "LISTENER_ACK_MODE" (some " ")) =
      .error ⟨"LISTENER_ACK_MODE", "Matching variant not found"⟩ ∧
    settings (Function.update (fun _ => none) "LISTENER_ACK_MODE" none) = .ok {} := by
  refine ⟨settings_of_ackMode (ackMode_of_blank (Function.update_self ..) (by decide)), ?_⟩
  rw [Function.update_eq_self_iff.mpr rfl]
  exact settings_of_unset

end Environment

end QueueListener
