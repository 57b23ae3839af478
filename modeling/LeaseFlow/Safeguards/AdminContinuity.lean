import LeaseFlow.Contract.Dispatch

/-!
# Continuity of the admin

`initialize` and `set_admin` both write the stored admin.  The latter refuses once there is
one, the former replaces it whoever calls.
-/

set_option autoImplicit false

namespace LeaseFlow

open Transaction

/-- A stored admin stays, unless it authorised the call. -/
def Invocation.KeepsAdmin (invocation : Invocation) (world : World) : Prop :=
  ∀ admin, world.config.admin = some admin →
    (step invocation world).config.admin = some admin ∨
      invocation.env.authorised admin = true

/-- An `initialize` names another admin than the stored one, who has not authorised it. -/
def Invocation.ReplacesAdmin (invocation : Invocation) (world : World) : Prop :=
  ∃ admin successor, world.config.admin = some admin ∧
    invocation.call = .initializeContract successor ∧ successor ≠ admin ∧
    invocation.env.authorised admin = false

section Admin

variable {env : Env} {world : World}

theorem step_initializeContract (admin : Address) :
    (step ⟨env, .initializeContract admin⟩ world).config.admin = some admin := by
  have run : Commits (initializeContract admin) world ()
      { world with config := { world.config with admin := some admin } } := rfl
  rw [@step_of_commits _ _ ⟨env, .initializeContract admin⟩ run]

/-- Only `initialize` changes an admin that is stored. -/
theorem step_admin {call : Call} {admin : Address} (stored : world.config.admin = some admin)
    (other : ∀ successor, call ≠ .initializeContract successor) :
    (step ⟨env, call⟩ world).config.admin = some admin := by
  rcases step_cases ⟨env, call⟩ world with run | same
  · change Commits (dispatch env call) world () _ at run
    cases call with
    | initializeContract successor => exact absurd rfl (other successor)
    | setAdmin successor =>
        simp [dispatch, setAdmin, stored] at run
    | _ =>
        have kept : (step _ world).config.admin = world.config.admin :=
          @dispatch_kept _ _ _ _ .admin run (by simp)
        exact kept.trans stored
  · rw [same, stored]

theorem Invocation.keepsAdmin_iff (invocation : Invocation) (world : World) :
    invocation.KeepsAdmin world ↔ ¬ invocation.ReplacesAdmin world := by
  obtain ⟨env, call⟩ := invocation
  constructor
  · intro keeps
    rintro ⟨admin, successor, stored, rfl, differs, unsigned⟩
    rcases keeps admin stored with same | signed
    · rw [step_initializeContract] at same
      exact differs (Option.some.inj same)
    · cases unsigned.symm.trans signed
  · intro keeps admin stored
    by_cases signed : env.authorised admin = true
    · exact .inr signed
    · left
      cases call with
      | initializeContract successor =>
          rw [step_initializeContract]
          by_contra differs
          refine keeps ⟨admin, successor, stored, rfl, ?_, Bool.not_eq_true _ ▸ signed⟩
          exact fun same => differs (congrArg some same)
      | _ => exact step_admin stored fun _ same => by cases same

end Admin

/-- A run keeps every stored admin who does not authorise its replacement exactly when no
`initialize` of the run replaces one. -/
theorem admin_continuity_iff (calls : List Invocation) (world : World) :
    Run.MeetsAlong step Invocation.KeepsAdmin calls world ↔
      Run.MeetsAlong step (fun call state => ¬ call.ReplacesAdmin state) calls world :=
  @Run.meetsAlong_congr _ _ step (fun _ => True) _ _ (fun _ _ _ => trivial)
    (fun call state _ => call.keepsAdmin_iff state) calls world trivial

/-- A stranger makes itself the admin of a new deployment whose admin signs nothing. -/
theorem initialized_contract_taken_over :
    ¬ Run.MeetsAlong step Invocation.KeepsAdmin
      [⟨unsignedLedger 0, .initializeContract ⟨1⟩⟩, ⟨unsignedLedger 0, .initializeContract ⟨9⟩⟩]
      freshWorld := by
  rintro ⟨_, keeps, _⟩
  rcases keeps ⟨1⟩ rfl with same | signed
  · cases same
  · cases signed

end LeaseFlow
