import TextCriteria.Settings.Source

namespace TextCriteria

/-!
# Default settings of the process

Builders that are made without settings use those of the process. They are read from the environment
when they are needed for the first time, and stay until they are replaced or reset.

* `DefaultSettings.get` — the settings, read if there are none yet.
* `DefaultSettings.configure` — the settings replaced, as a whole or in some fields.
* `DefaultSettings.reset` — back to the state before they were read.
-/

/-- The settings of the process, once they are known. -/
structure DefaultSettings where
  current : Option Settings := none
  deriving Repr

namespace DefaultSettings

/-- The settings. If they cannot be read, nothing is kept. -/
def get (d : DefaultSettings) (env : Environment) : Except Failure Settings × DefaultSettings :=
  match d.current with
  | some s => (.ok s, d)
  | none =>
    match Settings.make env [] with
    | .ok s => (.ok s, ⟨some s⟩)
    | .error f => (.error f, d)

/-- New settings: those that are given or else the present ones, with some fields replaced. -/
def configure (d : DefaultSettings) (env : Environment) (given : Option Settings)
    (overrides : List (String × Value)) : Except Failure Settings × DefaultSettings :=
  let (base, d) : Except Failure Settings × DefaultSettings := match given with
    | some s => (.ok s, d)
    | none => d.get env
  match base with
  | .ok s => let s := s.replaceAll overrides; (.ok s, ⟨some s⟩)
  | .error f => (.error f, d)

/-- No settings, so that they will be read again. -/
def reset (_ : DefaultSettings) : DefaultSettings := {}

end DefaultSettings
end TextCriteria
