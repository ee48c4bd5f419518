import PitbluCore.AuthenticationGate

namespace PitbluCore

open Library ConfigurationManager

namespace ControlPlane

section Host

variable (P : Pydantic) (digest : String → List UInt8 → List UInt8) (E : Host)

def Started (s : ControlPlane) : Prop :=
  ∃ S m draw clock, startupConfiguration P E S = .ok m ∧ s = create digest m S draw clock

end Host

variable {P : Pydantic} {digest : String → List UInt8 → List UInt8} {E : Host} {s t : ControlPlane}

section Store

end Store

/-- The manager is the one that a restart builds. -/
def Synced (P : Pydantic) (E : Host) (s : ControlPlane) : Prop :=
  ConfigurationManager.create (AppConfig.schema P) E.startupLayers s.store = .ok s.manager

section Runs

theorem Synced.version (h : s.Synced P E) : s.manager.version = s.store.configVersion := by
  obtain ⟨_, -, -, -, -, -, hv, -⟩ := create_eq_ok_iff.mp h
  exact hv

end Runs

section Answers

variable {n n' : ℕ} {draw draw' : Draw} {version version' : ℤ} {settings settings' : List (String × SettingView)}
  {values : Dict String Value}

end Answers

end ControlPlane

end PitbluCore
