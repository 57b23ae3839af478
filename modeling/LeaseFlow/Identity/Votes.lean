import LeaseFlow.Identity.Effect
import LeaseFlow.Foundations.PartialMap
import Mathlib.Data.Finset.Card
import Mathlib.Data.Finset.Dedup

/-!
# Revocations and their votes

A proposal only counts its votes.  The deeds of a run tell who cast them, and on which proposal
of that number: the counts are those of the ballots cast since the number was last given to a
proposal.
-/

set_option autoImplicit false

namespace LeaseFlow.Identity

open Transaction

/-! ## Ballots -/

/-- A vote, with the provider that the proposal of this number was about when it was cast. -/
structure Ballot where
  voter : Address
  asMember : Bool
  voteFor : Bool
  providerId : ProviderId
  deriving DecidableEq

inductive Deed where
  | proposed (proposalId : U64)
  | voted (proposalId : U64) (ballot : Ballot)

def Call.deed (call : Call) (store : Store) : Option Deed :=
  match call.operation with
  | .createRevocationProposal _ _ _ => some (.proposed (store.providerRegistryCount.getD 0))
  | .voteOnRevocation voter proposalId voteFor =>
      (store.revocationProposal proposalId).map fun proposal =>
        .voted proposalId ⟨voter, store.isMember voter, voteFor, proposal.providerId⟩
  | _ => none

/-- The deeds so far and those of a call that goes through. -/
def Call.recordDeed (call : Call) (store : Store) (entered : List Deed) : List Deed :=
  entered ++ (Machine.accepted Call.body Call.deed call store).toList

/-- The module with the deeds of the run beside its store. -/
abbrev recordedStep : Call → Store × List Deed → Store × List Deed :=
  Run.annotate step Call.recordDeed

def Deed.ballotOn (proposalId : U64) : Deed → Option Ballot
  | .proposed _ => none
  | .voted other ballot => if other = proposalId then some ballot else none

/-- All votes cast on a number. -/
def ballotsOn (proposalId : U64) (entered : List Deed) : List Ballot :=
  entered.filterMap (Deed.ballotOn proposalId)

def Deed.tally (proposalId : U64) (ballots : List Ballot) : Deed → List Ballot
  | .proposed other => if other = proposalId then [] else ballots
  | .voted other ballot => if other = proposalId then ballots ++ [ballot] else ballots

/-- The votes cast on the proposal that has the number now. -/
def standingBallots (proposalId : U64) (entered : List Deed) : List Ballot :=
  entered.foldl (Deed.tally proposalId) []

def voters (ballots : List Ballot) : Finset Address :=
  (ballots.map Ballot.voter).toFinset

/-- At least three members voted, at least two thirds of the voters for the revocation, and all
of them on a proposal about the provider. -/
structure RealVote (providerId : ProviderId) (ballots : List Ballot) : Prop where
  several : 3 ≤ (voters (ballots.filter Ballot.asMember)).card
  majority : 2 * (voters ballots).card ≤ 3 * (voters (ballots.filter Ballot.voteFor)).card
  about : ∀ ballot ∈ ballots, ballot.providerId = providerId

/-- Nobody voted twice on the number, and no vote was cast on an earlier proposal that had it. -/
structure Orderly (proposalId : U64) (entered : List Deed) : Prop where
  once : ((ballotsOn proposalId entered).map Ballot.voter).Nodup
  current : standingBallots proposalId entered = ballotsOn proposalId entered

/-- The counts come to two thirds. -/
def RevocationProposal.TwoThirds (proposal : RevocationProposal) : Prop :=
  2 * (proposal.votesFor + proposal.votesAgainst) ≤ 3 * proposal.votesFor

instance (proposal : RevocationProposal) : Decidable proposal.TwoThirds :=
  inferInstanceAs (Decidable (_ ≤ _))

/-- The call, if it executes a proposal, does so only where this holds of the deeds and the
proposal. -/
def Call.ExecutesOnly (P : List Deed → U64 → RevocationProposal → Prop) (call : Call)
    (state : Store × List Deed) : Prop :=
  ∀ executor proposalId proposal, call.operation = .executeRevocation executor proposalId →
    call.Goes state.1 → state.1.revocationProposal proposalId = some proposal →
      P state.2 proposalId proposal

/-- Nothing of the providers changes but that this one is revoked. -/
def Store.Revokes (before after : Store) (providerId : ProviderId) : Prop :=
  ∃ provider, after.identityProvider =
    Function.update before.identityProvider providerId (some provider) ∧
      provider.status = .revoked

/-- The call, if it executes a proposal, revokes the provider that the proposal is about, on whom
there was a real vote. -/
def Call.RevokesByRealVote (call : Call) (state : Store × List Deed) : Prop :=
  ∀ executor proposalId, call.operation = .executeRevocation executor proposalId →
    call.Goes state.1 → ∃ proposal, state.1.revocationProposal proposalId = some proposal ∧
      state.1.Revokes (step call state.1) proposal.providerId ∧
      RealVote proposal.providerId (ballotsOn proposalId state.2)

/-! ## Counts and ballots -/

/-- The counts of the proposal are those of the ballots. -/
structure RevocationProposal.Counts (ballots : List Ballot) (proposal : RevocationProposal) :
    Prop where
  votesFor : proposal.votesFor = ballots.countP Ballot.voteFor
  votesAgainst : proposal.votesAgainst = ballots.countP fun ballot => !ballot.voteFor
  members : ∀ ballot ∈ ballots, ballot.asMember = true
  about : ∀ ballot ∈ ballots, ballot.providerId = proposal.providerId

/-- Every stored proposal counts the ballots cast on it. -/
def Store.Tallied (store : Store) (entered : List Deed) : Prop :=
  ∀ proposalId proposal, store.revocationProposal proposalId = some proposal →
    proposal.Counts (standingBallots proposalId entered)

section Ballots

variable {before after : Store} {entered : List Deed} {proposalId : U64}
  {proposal : RevocationProposal}

theorem standingBallots_append (deed : Deed) :
    standingBallots proposalId (entered ++ [deed]) =
      deed.tally proposalId (standingBallots proposalId entered) := by
  rw [standingBallots, List.foldl_append]
  rfl

theorem RevocationProposal.Counts.voted {ballots : List Ballot} {voter : Address}
    (counts : proposal.Counts ballots) (voteFor : Bool) :
    (proposal.voted voteFor).Counts
      (ballots ++ [⟨voter, true, voteFor, proposal.providerId⟩]) := by
  have extended : ∀ {P : Ballot → Prop}, (∀ ballot ∈ ballots, P ballot) →
      P ⟨voter, true, voteFor, proposal.providerId⟩ →
      ∀ ballot ∈ ballots ++ [⟨voter, true, voteFor, proposal.providerId⟩], P ballot := by
    intro P earlier new ballot among
    rcases List.mem_append.mp among with old | now
    · exact earlier ballot old
    · rw [List.mem_singleton.mp now]
      exact new
  have sameProvider : (proposal.voted voteFor).providerId = proposal.providerId := by
    cases voteFor <;> rfl
  constructor
  · rw [List.countP_append, ← counts.votesFor]
    cases voteFor <;> rfl
  · rw [List.countP_append, ← counts.votesAgainst]
    cases voteFor <;> rfl
  · exact extended counts.members rfl
  · rw [sameProvider]
    exact extended counts.about rfl

/-- A call that goes through keeps the counts together with the deeds. -/
theorem Effect.tallied {call : Call} (effect : Effect call.env before after call.operation)
    (tallied : before.Tallied entered) :
    after.Tallied (entered ++ (call.deed before).toList) := by
  obtain ⟨env, operation⟩ := call
  cases effect with
  | registered new entries | trusted found active entries | distrusted listed entries
  | suspended member found entries | enrolled signed byMember entries =>
      rw [Call.deed, Option.toList_none, List.append_nil, Store.Tallied,
        entries.revocationProposal]
      exact tallied
  | @proposed proposer providerId reason member entries =>
      simp only [Call.deed, Option.toList_some]
      unfold Store.Tallied
      rw [entries.revocationProposal]
      refine PartialMap.forall_update ?_ fun other stored differs found => ?_
      · rw [standingBallots_append, Deed.tally, if_pos rfl]
        exact ⟨rfl, rfl, fun _ among => absurd among List.not_mem_nil,
          fun _ among => absurd among List.not_mem_nil⟩
      · rw [standingBallots_append, Deed.tally, if_neg differs.symm]
        exact tallied other stored found
  | @voted voter proposalId voteFor proposal signed member found entries =>
      simp only [Call.deed, found, member, Option.map_some, Option.toList_some]
      unfold Store.Tallied
      rw [entries.revocationProposal]
      refine PartialMap.forall_update ?_ fun other stored differs found => ?_
      · rw [standingBallots_append, Deed.tally, if_pos rfl]
        exact (tallied proposalId proposal found).voted voteFor
      · rw [standingBallots_append, Deed.tally, if_neg differs.symm]
        exact tallied other stored found
  | @revoked executor proposalId proposal provider member found carried registered entries =>
      rw [Call.deed, Option.toList_none, List.append_nil, Store.Tallied,
        entries.revocationProposal]
      refine PartialMap.forall_update ?_ fun other stored _ found => tallied other stored found
      obtain ⟨votesFor, votesAgainst, members, about⟩ := tallied proposalId proposal found
      exact ⟨votesFor, votesAgainst, members, about⟩
  | queried query same =>
      rw [same]
      cases query <;> (rw [Call.deed, Option.toList_none, List.append_nil]; exact tallied)

theorem recordedStep_tallied (call : Call) (state : Store × List Deed)
    (tallied : state.1.Tallied state.2) :
    (recordedStep call state).1.Tallied (recordedStep call state).2 := by
  change (step call state.1).Tallied (call.recordDeed state.1 state.2)
  unfold Call.recordDeed
  by_cases goes : call.Goes state.1
  · rw [Machine.accepted_of_goes goes]
    exact (call_effect goes.commits).tallied tallied
  · rw [Machine.accepted_of_not_goes goes, step, Machine.step_of_not_goes goes,
      Option.toList_none, List.append_nil]
    exact tallied

/-! ## Executions -/

theorem voters_card_of_nodup {ballots : List Ballot}
    (once : (ballots.map Ballot.voter).Nodup) (chosen : Ballot → Bool) :
    (voters (ballots.filter chosen)).card = ballots.countP chosen := by
  have among : ((ballots.filter chosen).map Ballot.voter).Nodup :=
    once.sublist (List.filter_sublist.map _)
  rw [voters, List.toFinset_card_of_nodup among, List.length_map, List.countP_eq_length_filter]

theorem voters_card {ballots : List Ballot} (once : (ballots.map Ballot.voter).Nodup) :
    (voters ballots).card = ballots.length := by
  rw [voters, List.toFinset_card_of_nodup once, List.length_map]

/-- Where every voter is counted once, a carried proposal rests on a real vote exactly if its
counts come to two thirds. -/
theorem RevocationProposal.Counts.realVote_iff
    (counts : proposal.Counts (standingBallots proposalId entered))
    (orderly : Orderly proposalId entered) (carried : proposal.Carried) :
    RealVote proposal.providerId (ballotsOn proposalId entered) ↔ proposal.TwoThirds := by
  rw [orderly.current] at counts
  obtain ⟨once, _⟩ := orderly
  have all : (voters (ballotsOn proposalId entered)).card =
      proposal.votesFor + proposal.votesAgainst := by
    rw [voters_card once, counts.votesFor, counts.votesAgainst,
      List.length_eq_countP_add_countP Ballot.voteFor]
    simp only [Bool.not_eq_true, Bool.decide_eq_false]
  have inFavour : (voters ((ballotsOn proposalId entered).filter Ballot.voteFor)).card =
      proposal.votesFor := by
    rw [voters_card_of_nodup once, counts.votesFor]
  have byMembers : (ballotsOn proposalId entered).filter Ballot.asMember =
      ballotsOn proposalId entered :=
    List.filter_eq_self.mpr counts.members
  constructor
  · intro real
    have majority := real.majority
    rw [all, inFavour] at majority
    exact majority
  · intro twoThirds
    refine ⟨?_, ?_, counts.about⟩
    · rw [byMembers, all]
      exact carried.1
    · rw [all, inFavour]
      exact twoThirds

/-- An execution that goes through is of a carried proposal, whose provider it revokes. -/
theorem Call.revokes_of_goes {call : Call} {store : Store} {executor : Address}
    (executes : call.operation = .executeRevocation executor proposalId)
    (goes : call.Goes store) :
    ∃ proposal, store.revocationProposal proposalId = some proposal ∧ proposal.Carried ∧
      store.Revokes (step call store) proposal.providerId := by
  obtain ⟨env, operation⟩ := call
  obtain rfl : operation = .executeRevocation executor proposalId := executes
  cases call_effect goes.commits with
  | revoked member found carried registered entries =>
      exact ⟨_, found, carried, _, entries.identityProvider, rfl⟩
  | queried query same => cases query

end Ballots

/-! ## Runs -/

/-- In every run whose executions are of proposals on which nobody voted twice and no vote was
cast before they had their number, the providers are revoked by real votes exactly if the counts
come to two thirds. -/
theorem revocations_voted {start : Store}
    (unproposed : ∀ proposalId, start.revocationProposal proposalId = none) (calls : List Call)
    (orderly : Run.MeetsAlong recordedStep
      (Call.ExecutesOnly fun entered proposalId _ => Orderly proposalId entered) calls
      (start, [])) :
    Run.MeetsAlong recordedStep Call.RevokesByRealVote calls (start, []) ↔
      Run.MeetsAlong recordedStep (Call.ExecutesOnly fun _ _ proposal => proposal.TwoThirds) calls
        (start, []) := by
  have initially : start.Tallied [] := fun proposalId proposal found => by
    cases (unproposed proposalId).symm.trans found
  refine @Run.meetsAlong_iff_given _ _ recordedStep
    (Call.ExecutesOnly fun entered proposalId _ => Orderly proposalId entered)
    (fun state => state.1.Tallied state.2) (fun _ => True) _ _
    (fun call state _ => recordedStep_tallied call state)
    (fun call state ordered tallied _ => ?_) (fun _ _ _ _ _ _ => trivial) calls (start, [])
    orderly initially trivial
  constructor
  · intro real executor proposalId proposal executes goes found
    obtain ⟨voted, again, _, vote⟩ := real executor proposalId executes goes
    obtain rfl := Option.some.inj (found.symm.trans again)
    obtain ⟨stored, same, carried, _⟩ := Call.revokes_of_goes executes goes
    obtain rfl := Option.some.inj (found.symm.trans same)
    have counts := tallied proposalId proposal found
    have once := ordered executor proposalId proposal executes goes found
    exact (counts.realVote_iff once carried).mp vote
  · intro twoThirds executor proposalId executes goes
    obtain ⟨proposal, found, carried, revokes⟩ := Call.revokes_of_goes executes goes
    have counts := tallied proposalId proposal found
    have once := ordered executor proposalId proposal executes goes found
    have majority := twoThirds executor proposalId proposal executes goes found
    exact ⟨proposal, found, revokes, (counts.realVote_iff once carried).mpr majority⟩

/-! ## A council of three -/

def callBy (account : Nat) (operation : Operation) : Call where
  env := ⟨0, fun address => address == ⟨account⟩⟩
  operation := operation

def trioCouncil (address : Address) : Option Bool :=
  if address.account ∈ [1, 2, 3] then some true else none

def registered : Call :=
  callBy 9 (.registerIdentityProvider (.repeated 32 1) ⟨9⟩ "verifier")

def proposed : Call :=
  callBy 1 (.createRevocationProposal ⟨1⟩ (.repeated 32 1) "compromised")

/-- Two members vote for the revocation and one against it. -/
theorem revocations_voted_trio :
    Run.MeetsAlong recordedStep Call.RevokesByRealVote
      [registered, proposed, callBy 1 (.voteOnRevocation ⟨1⟩ 1 true),
        callBy 2 (.voteOnRevocation ⟨2⟩ 1 true), callBy 3 (.voteOnRevocation ⟨3⟩ 1 false),
        callBy 1 (.executeRevocation ⟨1⟩ 1)] (Store.founded trioCouncil, []) := by
  refine (revocations_voted (fun _ => rfl) _ ?_).mpr ?_
  · refine ⟨?_, ?_, ?_, ?_, ?_, ?_, trivial⟩ <;> intro executor proposalId proposal executes <;>
      cases executes
    exact fun _ _ => ⟨by decide +kernel, by decide +kernel⟩
  · refine ⟨?_, ?_, ?_, ?_, ?_, ?_, trivial⟩ <;> intro executor proposalId proposal executes <;>
      cases executes
    intro _ found
    exact of_decide_eq_true ((Option.all_eq_true _ _).mp
      (by decide +kernel : Option.all (fun proposal => decide proposal.TwoThirds) _ = true)
      proposal found)

/-- One member votes three times, and the provider is revoked. -/
theorem lone_voter_revokes :
    ¬ ∀ council calls, Run.MeetsAlong recordedStep Call.RevokesByRealVote calls
      (Store.founded council, []) := by
  intro voted
  have along := voted trioCouncil [registered, proposed,
    callBy 1 (.voteOnRevocation ⟨1⟩ 1 true), callBy 1 (.voteOnRevocation ⟨1⟩ 1 true),
    callBy 1 (.voteOnRevocation ⟨1⟩ 1 true), callBy 1 (.executeRevocation ⟨1⟩ 1)]
  obtain ⟨proposal, _, _, vote⟩ := along.2.2.2.2.2.1 ⟨1⟩ 1 rfl (by decide +kernel)
  exact absurd vote.several (by decide +kernel)

end LeaseFlow.Identity
