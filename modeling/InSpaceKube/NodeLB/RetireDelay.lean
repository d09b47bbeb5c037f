/-
InSpaceKube/NodeLB/RetireDelay.lean

When a receipt may be given up.

A request to the cloud ends within `mutationTimeout` of its dispatch.  A receipt
whose request was not seen to commit is taken off `retireDelay` after it was
issued, which is that time and half a minute more.  The clock is read when the
receipt is issued, and not when the request goes out; in between the code reads
what it needs for its authority, and this may take any time.

If every request goes out within the half minute (`prompt`), a receipt is never
given up while its request is under way (`given_up_not_under_way`).  Without that
it may happen, with two controllers (`retired_under_way`).

The argument has two parts.  A request under way has the time of its receipt,
which is known by its id, so it has ended when the receipt is due (`Flying`).  A
receipt that is given up as never sent is given up by the one who issued it, and
who does not send it later (`not_sent_after`).
-/
import InSpaceKube.NodeLB.AnchorOnce

namespace InSpaceKube.NodeLB.Receipts

open Prog

/-! ### The condition -/

/-- When the receipt of a request was issued. -/
def issuedAtOf : Op → Stamp
  | .relate _ fence => fence.issuedAt
  | .put _ receipt _ => receipt.issuedAt
  | _ => .absent

/-- A request goes out within half a minute of the issue of its receipt. -/
def prompt (_ : Tid) (op : Op) (s : State) : Prop :=
  ∀ issuedAt, issuedAtOf op = .at issuedAt → s.clock < issuedAt + absenceConfirmationDelay

theorem lastListing_mem {tr : Tr} {items : List Firewall} (h : lastListing tr = some items) :
    ∃ reader, (⟨.read (.listFirewalls reader), .ok items⟩ : Event Op Reply) ∈ tr := by
  induction tr with
  | nil => cases h
  | cons _ _ ih =>
    unfold lastListing at h
    split at h
    · cases h
    next reader items' tr' heq =>
      cases heq
      cases h
      exact ⟨reader, .head _⟩
    next heq =>
      cases heq
      obtain ⟨reader, hmem⟩ := ih h
      exact ⟨reader, .tail _ hmem⟩

/-! ### Requests under way -/

section Flights

variable {cfg : Config} {renames : Prop} {s s' s₁ : State} {t : Tid} {op : Op} {r : Reply op}
  {id : String} {now : Time}

/-- What is known of a request under way. -/
structure Flying (s : State) (f : Flight) : Prop where
  clock : s.clock ≤ f.sentAt + mutationTimeout
  sent : ∃ t r, (t, (⟨f.op, r⟩ : Event Op Reply)) ∈ s.served ∧ ¬ Harmless ⟨f.op, r⟩
  prompt : ∀ issuedAt, issuedAtOf f.op = .at issuedAt → f.sentAt < issuedAt + absenceConfirmationDelay

theorem Flying.congr {f : Flight} (h : Flying s f) (hclock : s'.clock ≤ f.sentAt + mutationTimeout)
    (hserved : s.served ⊆ s'.served) : Flying s' f := by
  obtain ⟨-, ⟨t, r, hmem, hsent⟩, hprompt⟩ := h
  exact ⟨hclock, ⟨t, r, hserved hmem, hsent⟩, hprompt⟩

/-- A request that is served adds itself to those under way, unless it is known
not to have been sent. -/
theorem send_flights (op : Op) (r : Except Err Unit) :
    (s.send op r).clock = s.clock ∧ ((s.send op r).flights = s.flights ∨
      (s.send op r).flights = ⟨op, s.clock⟩ :: s.flights ∧
        ∀ e, r = .error e → mutationKnownPreDispatch e = false) := by
  unfold State.send
  split
  · exact ⟨rfl, .inr ⟨rfl, nofun⟩⟩
  · split
    · exact ⟨rfl, .inl rfl⟩
    next hsent =>
      refine ⟨rfl, .inr ⟨rfl, fun e h => ?_⟩⟩
      cases h
      rwa [Bool.not_eq_true] at hsent

theorem effect_flights (h : effect op s r s₁) : s₁.clock = s.clock ∧
    (s₁.flights = s.flights ∨ s₁.flights = ⟨op, s.clock⟩ :: s.flights ∧ ¬ Harmless ⟨op, r⟩) := by
  cases op with
  | read q =>
    cases q with
    | get => rw [h.1]; exact ⟨rfl, .inl rfl⟩
    | now => rw [h.1]; exact ⟨rfl, .inl rfl⟩
    | token => rw [h.1]; exact ⟨rfl, .inl rfl⟩
    | _ => obtain rfl := h; exact ⟨rfl, .inl rfl⟩
  | update => cases h <;> exact ⟨rfl, .inl rfl⟩
  | create => cases h <;> exact ⟨rfl, .inl rfl⟩
  | delete => rcases h with rfl | ⟨rfl, -⟩ <;> exact ⟨rfl, .inl rfl⟩
  | relate ref fence =>
    obtain rfl := h
    obtain ⟨hclock, hflights⟩ := @send_flights s (.relate ref fence) r
    refine ⟨hclock, hflights.imp_right fun ⟨heq, hsent⟩ => ⟨heq, fun hharmless => ?_⟩⟩
    cases hharmless with
    | idle hidle => cases hidle
    | relate _ _ e hblocked => rw [hsent e rfl] at hblocked; cases hblocked
  | put vmUUID receipt change =>
    obtain rfl := h
    obtain ⟨hclock, hflights⟩ := @send_flights s (.put vmUUID receipt change) r
    refine ⟨hclock, hflights.imp_right fun ⟨heq, hsent⟩ => ⟨heq, fun hharmless => ?_⟩⟩
    cases hharmless with
    | idle hidle => cases hidle
    | put _ _ _ e hblocked => rw [hsent e rfl] at hblocked; cases hblocked
  | _ => obtain rfl := h; exact ⟨rfl, .inl rfl⟩

/-- One request keeps what is known of those under way. -/
theorem flying_exec (h : ∀ f ∈ s.flights, Flying s f) (hprompt : prompt t op s)
    (hexec : exec t op s r s') : ∀ f ∈ s'.flights, Flying s' f := by
  have hserved : s.served ⊆ s'.served := by
    rw [records.exec t op s r s' hexec]
    exact List.subset_cons_self _ _
  have hself : (t, (⟨op, r⟩ : Event Op Reply)) ∈ s'.served := by
    rw [records.exec t op s r s' hexec]
    exact .head _
  obtain ⟨s₁, heffect, rfl⟩ := hexec
  obtain ⟨hclock, hflights⟩ := effect_flights heffect
  have hold : ∀ f ∈ s.flights, Flying (s₁.note t op r) f := fun f hf =>
    (h f hf).congr (by rw [show (s₁.note t op r).clock = s.clock from hclock]; exact (h f hf).clock)
      hserved
  intro f hf
  rcases hflights with heq | ⟨heq, hsent⟩
  · exact hold f (heq ▸ hf)
  · rw [show (s₁.note t op r).flights = _ from heq] at hf
    rcases List.mem_cons.1 hf with rfl | hf
    · refine ⟨?_, ⟨t, r, hself, hsent⟩, hprompt⟩
      rw [show (s₁.note t op r).clock = s.clock from hclock]
      have htimeout : (0 : ℤ) ≤ mutationTimeout := by decide
      exact Int.le_add_of_nonneg_right htimeout
    · exact hold f hf

theorem flying_env (h : ∀ f ∈ s.flights, Flying s f) (henv : Env s s') :
    ∀ f ∈ s'.flights, Flying s' f := by
  have hserved : s.served ⊆ s'.served := by rw [records.env s s' henv]; exact List.Subset.refl _
  cases henv with
  | quiet hquiet =>
    cases hquiet with
    | edit =>
      exact fun f hf => (h f hf).congr (h f hf).clock hserved
    | tick _ _ hend => exact fun f hf => (h f hf).congr (hend f hf) hserved
    | ended _ hsub => exact fun f hf => (h f (hsub hf)).congr (h f (hsub hf)).clock hserved
  | remove => exact fun f hf => (h f hf).congr (h f hf).clock hserved
  | create => exact fun f hf => (h f hf).congr (h f hf).clock hserved
  | late => exact fun f hf => (h f hf).congr (h f hf).clock hserved

/-- In every run whose requests go out in time. -/
theorem flying_reachable {c : InSpaceKube.Config State Op Reply (Except Err Unit)}
    (h : Reachable (sem.restrict prompt) (Calls cfg) Initial c) :
    ∀ f ∈ c.shared.flights, Flying c.shared f := by
  induction h with
  | init hs =>
    intro f hf
    rw [show _ = [] from hs.flights] at hf
    cases hf
  | step _ hstep ih =>
    cases hstep with
    | spawn => exact ih
    | serve _ _ _ _ _ _ hexec => exact flying_exec ih hexec.1 hexec.2
    | crash => exact ih
    | env _ henv => exact flying_env ih henv

/-- The request has the time its id was drawn with. -/
theorem issuedAt_of_ok {tr : Tr} (h : (receiptHabit cfg renames).ok tr op) (hid : issueOf op = some id) :
    ∃ now, Stamped tr id now ∧ issuedAtOf op = .at now := by
  cases op with
  | relate ref fence =>
    cases hid
    obtain ⟨late, cur, early, o, u, _, _, now, rfl, -, -, -, -, -, -, -, hdrawn, hat, -⟩ := h
    refine ⟨now, ?_, hat⟩
    have happend := hdrawn.stamped.append (asOps late ++ ⟨.read (.get ref), .ok (some cur)⟩ ::
      asOps early ++ [⟨.update ref o, .ok u⟩])
    simpa using happend
  | put vmUUID receipt change =>
    cases hid
    obtain ⟨own, cur, o, u, _, now, rfl, -, -, -, -, hdrawn, hat, -⟩ := h
    refine ⟨now, ?_, hat⟩
    have happend := hdrawn.stamped.append (⟨.read (.get (.anchor vmUUID)), .ok (some cur)⟩ ::
      asOps own ++ [⟨.update (.anchor vmUUID) o, .ok u⟩])
    simpa using happend
  | _ => cases hid

/-- A request under way is of a receipt that is not due. -/
theorem Flying.not_due {f : Flight} {issued : Stamp} {issuedAt : Time} (h : Flying s f)
    (hi : Inv cfg s) (hobeys : ∀ t, (receiptHabit cfg renames).Obeys (ownTrace t s.served))
    (hid : issueOf f.op = some id) (hissued : IssuedAs s id issued) (hat : issued = .at issuedAt) :
    s.clock < issuedAt + retireDelay := by
  obtain ⟨t, r, hmem, -⟩ := h.sent
  obtain ⟨newer, _, hsplit, hok⟩ := (hobeys t).ok_of_mem (mem_ownTrace.2 hmem)
  obtain ⟨now, hstamped, hop⟩ := issuedAt_of_ok hok hid
  have hown : Stamped (ownTrace t s.served) id now := by
    have happend := hstamped.append (newer ++ [⟨f.op, r⟩])
    rwa [List.append_assoc, List.singleton_append, ← hsplit] at happend
  rcases hissued with hold | ⟨_, _, hstamped', hat'⟩
  · exact absurd hold (hi.notOld id (mem_drawnTokens.2 ⟨t, mem_ownTrace.1 hown.token⟩))
  · obtain rfl := Stamp.at.inj (hat.symm.trans hat')
    obtain rfl := hown.unique hi.tokens hstamped'
    calc s.clock ≤ f.sentAt + mutationTimeout := h.clock
      _ < now + absenceConfirmationDelay + mutationTimeout := Int.add_lt_add_right (h.prompt now hop) _
      _ = now + retireDelay := by
        unfold retireDelay
        rw [Int.add_assoc, Int.add_comm absenceConfirmationDelay]

end Flights

/-! ### Receipts that were never sent -/

section NotSent

variable {cfg : Config} {renames : Prop} {served : List (Tid × Event Op Reply)} {t : Tid}
  {id : String} {now : Time} {late newer older : Tr} {asked stored : Event Op Reply}

/-- After an id was drawn there are only idle events, as long as it is fresh. -/
theorem Drawn.idle_of_mem {tr x : Tr} {e : Event Op Reply} (h : Drawn tr id now)
    (htr : tr = x ++ e :: older) (hmem : (⟨.read .token, .ok id⟩ : Event Op Reply) ∈ older)
    (honce : ∀ newer' older', tr = newer' ++ ⟨.read .token, .ok id⟩ :: older' →
      (⟨.read .token, .ok id⟩ : Event Op Reply) ∉ older') : Idle e := by
  obtain ⟨newer', older', hsplit, hidle⟩ := h
  have hfresh := honce (newer' ++ [⟨.read .now, now⟩]) older' (by rw [hsplit]; simp)
  have heq := htr.symm.trans hsplit
  rcases List.append_eq_append_iff.1 heq with ⟨mid, hnewer, hrest⟩ | ⟨mid, -, hrest⟩
  · cases mid with
    | nil =>
      injection hrest with he _
      rw [he]
      exact .read _ _
    | cons =>
      injection hrest with he _
      exact hidle e (by rw [hnewer, he]; simp)
  · cases mid with
    | nil =>
      injection hrest with he _
      rw [← he]
      exact .read _ _
    | cons _ mid =>
      injection hrest with _ hrest
      cases mid with
      | nil =>
        injection hrest with he _
        rw [← he]
        exact .read _ _
      | cons =>
        injection hrest with _ hrest
        refine absurd ?_ hfresh
        rw [hrest]
        exact List.mem_append_right _ (.tail _ hmem)

/-- Whoever has stored a receipt and asked for another write since does not send
the request any more. -/
theorem not_sent_after (hnodup : (drawnTokens served).Nodup)
    (hobeys : (receiptHabit cfg renames).Obeys (ownTrace t served))
    (htr : ownTrace t served = late ++ asked :: (newer ++ stored :: older)) (hdrawn : Drawn older id now)
    (hasked : ¬ Idle asked) (hstored : ¬ Idle stored) : ∀ e ∈ late, issueOf e.op ≠ some id := by
  intro e he hid
  obtain ⟨late₁, late₂, rfl⟩ := List.append_of_mem he
  have hown : ownTrace t served = late₁ ++ e :: (late₂ ++ asked :: (newer ++ stored :: older)) := by
    rw [htr]
    simp
  have hok := hobeys
  rw [hown] at hok
  obtain ⟨idle, ref, o, u, older', _, hready, hidle, hdrawn'⟩ := ready_of_ok hok.ok_of_append hid
  -- the write that was asked for is not among the idle events since the last one
  have hlater : ∃ x, older' = x ++ stored :: older := by
    rcases List.append_eq_append_iff.1 hready with ⟨mid, hmid, hrest⟩ | ⟨mid, hmid, hrest⟩
    · cases mid with
      | nil =>
        injection hrest with _ hrest
        exact ⟨newer, hrest.symm⟩
      | cons =>
        injection hrest with ha _
        exact absurd (hidle asked (by rw [hmid, ha]; simp)) hasked
    · cases mid with
      | nil =>
        injection hrest with _ hrest
        exact ⟨newer, hrest⟩
      | cons _ mid =>
        injection hrest with _ hrest
        exact ⟨mid ++ asked :: newer, by rw [hrest]; simp⟩
  obtain ⟨x, hx⟩ := hlater
  refine hstored (hdrawn'.idle_of_mem hx hdrawn.token fun newer' tail hsplit => ?_)
  have hfull : ownTrace t served =
      (late₁ ++ e :: idle ++ ⟨.update ref o, .ok u⟩ :: newer') ++ ⟨.read .token, .ok id⟩ :: tail := by
    rw [hown, hready, hsplit]
    simp
  exact (token_once hnodup hfull).2

/-- The request of a receipt that was given up as never sent is not under way. -/
theorem Flying.not_undispatched {s : State} {f : Flight} {ref : Ref} {o o' u : Object} {tr : Tr}
    (h : Flying s f) (hi : Inv cfg s)
    (hobeys : ∀ t, (receiptHabit cfg renames).Obeys (ownTrace t s.served))
    (hasked : Asked s.served t tr ref o) (htr : tr = newer ++ ⟨.update ref o', .ok u⟩ :: older)
    (hdrawn : Drawn older id now) (hharmless : ∀ e ∈ newer, Harmless e) : issueOf f.op ≠ some id := by
  intro hid
  obtain ⟨v, r, hmem, hsent⟩ := h.sent
  obtain ⟨late, reply, hsplit, hreply⟩ := hasked.split
  rw [htr] at hsplit
  have hmem' := mem_ownTrace.2 hmem
  have htoken : (⟨.read .token, .ok id⟩ : Event Op Reply) ∈ ownTrace t s.served := by
    rw [hsplit]
    exact List.mem_append_right _ (List.mem_cons_of_mem _
      (List.mem_append_right _ (.tail _ hdrawn.token)))
  have hown : v = t := by
    obtain ⟨_, _, hv, hok⟩ := (hobeys v).ok_of_mem hmem'
    refine token_owner hi.tokens ?_ htoken
    rw [hv]
    exact List.mem_append_right _ (.tail _ (token_of_ok hok hid))
  subst hown
  have hpast : ownTrace v s.served = (late ++ ⟨.update ref o, reply⟩ ::
      (newer ++ [⟨.update ref o', .ok u⟩])) ++ older := by
    rw [hsplit]
    simp
  rw [hsplit] at hmem'
  rcases List.mem_append.1 hmem' with hlate | hrest
  · refine not_sent_after hi.tokens (hobeys v) hsplit hdrawn (fun hidle => ?_) (fun hidle => ?_) _ hlate
      hid
    · cases hidle with
      | conflict _ _ e => exact hreply e rfl
    · cases hidle
  rcases List.mem_cons.1 hrest with heq | hrest
  · rw [show f.op = .update ref o from congrArg Event.op heq] at hid
    cases hid
  rcases List.mem_append.1 hrest with hnewer | hrest
  · exact hsent (hharmless _ hnewer)
  rcases List.mem_cons.1 hrest with heq | hold
  · rw [show f.op = .update ref o' from congrArg Event.op heq] at hid
    cases hid
  · exact not_sent_of_drawn hi.tokens (hobeys v) hpast hdrawn _ hold hid

end NotSent

/-! ### Every run -/

section GivenUp

/-- Whoever has stored `new` over `old` had seen the relation as the fence asks
for. -/
def RelationSeen (served : List (Tid × Event Op Reply)) (ref : Ref) (new : Object) (f : Fence) : Prop :=
  ∃ t tr o n g items, Asked served t tr ref o ∧ new = { o with version := n } ∧
    parseFence (.fence f) = .ok g ∧ lastListing tr = some items ∧ relationConverged g items = .ok true

/-- Whoever has stored `new` had seen the firewall as the receipt asks for. -/
def ReceiptSeen (cfg : Config) (served : List (Tid × Event Op Reply)) (vmUUID : String) (new : Object)
    (r : Receipt) : Prop :=
  ∃ t tr o n uuid, Asked served t tr (.anchor vmUUID) o ∧ new = { o with version := n } ∧
    CommitReason cfg tr vmUUID r uuid

/-- No request under this id is under way. -/
def NotUnderWay (s : State) (id : String) : Prop := ∀ f ∈ s.flights, issueOf f.op ≠ some id

variable {cfg : Config} {renames : Prop} {s : State} {ref : Ref} {old new : Object}
  {newer older : List Object}

theorem fence_given_up (hi : Inv cfg s)
    (hobeys : ∀ t, (receiptHabit cfg renames).Obeys (ownTrace t s.served))
    (hflying : ∀ f ∈ s.flights, Flying s f)
    (hlog : (s.store ref).log = newer ++ new :: old :: older) (huid : new.uid = old.uid) {fence : Fence}
    (hf : old.relation.issued = .fence fence) (hnone : new.relation.issued = .none) :
    RelationSeen s.served ref new fence ∨ NotUnderWay s fence.issueID := by
  have hissued := hi.fences ref old (by rw [hlog]; simp) fence hf
  obtain ⟨t, tr, o, n, snapshot, values, hc⟩ := (hi.stored hlog).fenceChanged huid
    (by rw [hf, hnone]; exact nofun)
  obtain ⟨hasked, hnew, -, -, hchange, hbefore, hafter⟩ := hc
  have hsnap : snapshot.relation.issued = .fence fence := hbefore.symm.trans hf
  have hvalues : values.issued = .none := hafter.symm.trans hnone
  have hparsed : ∀ g, parseFence snapshot.relation.issued = .ok g →
      g.issueID = fence.issueID ∧ g.issuedAt = fence.issuedAt := by
    intro g hp
    obtain ⟨_, hf', rfl⟩ := parseFence_ok hp
    obtain rfl := FenceText.fence.inj (hf'.symm.trans hsnap)
    exact ⟨rfl, rfl⟩
  cases hchange with
  | keep hv => rw [hv, hsnap] at hvalues; cases hvalues
  | issue hno => rw [hsnap] at hno; cases hno
  | observe _ _ _ _ _ hv => rw [hv] at hvalues; cases hvalues
  | sight _ _ _ hv => rw [hv] at hvalues; cases hvalues
  | attached hp _ hlast hconv =>
    exact .inl ⟨t, tr, o, n, _, _, hasked, hnew, hsnap ▸ hp, hlast, hconv⟩
  | detached hp _ _ hobs hconv =>
    exact .inl ⟨t, tr, o, n, _, _, hasked, hnew, hsnap ▸ hp, hobs.1, hconv⟩
  | @retired _ _ _ now hp _ _ hnow hat hdue =>
    refine .inr fun f hfly hid => ?_
    have hlate := (hflying f hfly).not_due hi hobeys hid hissued ((hparsed _ hp).2.symm.trans hat)
    exact absurd (hdue.trans (hi.clocked t now (hnow.mono hasked.subset))) (not_le.2 hlate)
  | undispatched hundispatched hp hsame =>
    refine .inr fun f hfly => ?_
    obtain ⟨_, _, _, _, _, htr, -, hdrawn, -, hharmless⟩ := hundispatched
    have hsameID := (sameIssue_id hsame).symm.trans (hparsed _ hp).1
    rw [hsameID] at hdrawn
    exact (hflying f hfly).not_undispatched hi hobeys hasked htr hdrawn hharmless

theorem receipt_given_up {vmUUID : String} (hi : Inv cfg s)
    (hobeys : ∀ t, (receiptHabit cfg renames).Obeys (ownTrace t s.served))
    (hflying : ∀ f ∈ s.flights, Flying s f)
    (hlog : (s.store (.anchor vmUUID)).log = newer ++ new :: old :: older) (huid : new.uid = old.uid)
    (hat : old.fw.receipt.issuedAt ≠ .absent) (hne : new.fw.receipt ≠ old.fw.receipt) :
    ReceiptSeen cfg s.served vmUUID new old.fw.receipt ∨ NotUnderWay s old.fw.receipt.issueID := by
  have hissued := hi.receipts _ old (by rw [hlog]; simp) hat
  cases hi.stored hlog with
  | edited hnew => exact absurd (by rw [hnew]; rfl) hne
  | created _ hfresh => exact absurd huid hfresh
  | @written t tr o n hasked hwrite hnew =>
    subst hnew
    cases hwrite with
    | relation => exact absurd rfl hne
    | anchor hchange =>
      cases hchange.receiptStep with
      | same heq => exact absurd heq hne
      | staged hno => exact absurd (hasReceipt_eq_false.1 hno).2.2.1 hat
      | issued hno => exact absurd hno hat
      | committed hreason => exact .inl ⟨t, tr, o, n, _, hasked, rfl, hreason⟩
      | reset hreason =>
        refine .inr fun f hfly => ?_
        cases hreason with
        | staged _ hno => exact absurd hno hat
        | @due _ now _ hissuedAt hnow hdue =>
          intro hid
          have hlate := (hflying f hfly).not_due hi hobeys hid hissued hissuedAt
          exact absurd (hdue.trans (hi.clocked t now (hnow.mono hasked.subset))) (not_le.2 hlate)
        | undispatched _ htr _ hdrawn _ hharmless =>
          exact (hflying f hfly).not_undispatched hi hobeys hasked htr hdrawn hharmless

/-- **Receipts that are given up, in every run of any number of controllers whose
requests go out within half a minute of the issue of their receipts.**  Whoever
takes a receipt off has seen it done, or its request is not under way, then or
later. -/
theorem given_up_not_under_way (cfg : Config)
    {c : InSpaceKube.Config State Op Reply (Except Err Unit)}
    (h : Reachable (sem.restrict prompt) (Calls cfg) Initial c) :
    (∀ ref newer new old older fence,
      (c.shared.store ref).log = newer ++ new :: old :: older → new.uid = old.uid →
      old.relation.issued = .fence fence → new.relation.issued = .none →
      RelationSeen c.shared.served ref new fence ∨ NotUnderWay c.shared fence.issueID) ∧
    (∀ vmUUID newer new old older,
      (c.shared.store (.anchor vmUUID)).log = newer ++ new :: old :: older → new.uid = old.uid →
      old.fw.receipt.issuedAt ≠ .absent → new.fw.receipt ≠ old.fw.receipt →
      ReceiptSeen cfg c.shared.served vmUUID new old.fw.receipt ∨
        NotUnderWay c.shared old.fw.receipt.issueID) := by
  have hexec : ∀ t op s r s', (sem.restrict prompt).exec t op s r s' → exec t op s r s' :=
    fun _ _ _ _ _ h => h.2
  have hkept := kept_of hexec (fun _ _ h => h) h
  have hflying := flying_reachable h
  exact ⟨fun _ _ _ _ _ _ hlog huid hf hnone =>
      fence_given_up hkept.inv hkept.obeys hflying hlog huid hf hnone,
    fun _ _ _ _ _ hlog huid hat hne =>
      receipt_given_up hkept.inv hkept.obeys hflying hlog huid hat hne⟩

end GivenUp

/-! ### Two runs

The Service `web` attaches its firewall.  The first run is prompt: the request
goes out at once, and dies; when the receipt is due it is given up.  In the
second the request goes out a second before the receipt is due. -/

section Runs

def webAttach : Prog Op Reply (Except Err Unit) :=
  (Call.run webConfig webNetwork 3 (.relation webService .assign webFirewall webVM)).run

theorem webAttach_calls : Calls webConfig 0 webAttach := ⟨_, _, _, rfl⟩

/-- The receipt of the attach. -/
def webAttachFence : Fence := ⟨.assign, webFirewall, webVM, webToken, .at 0, .absent, .absent⟩

def meetsPrompt (op : Op) (s : State) : Bool :=
  match issuedAtOf op with
  | .at issuedAt => decide (s.clock < issuedAt + absenceConfirmationDelay)
  | _ => true

theorem prompt_of_meetsPrompt (t : Tid) (op : Op) (s : State) (h : meetsPrompt op s = true) :
    prompt t op s := by
  intro _ hat
  simp only [meetsPrompt, hat] at h
  exact of_decide_eq_true h

/-- The outside serves only requests that go out in time. -/
def Outside.promptServer (w : Outside) (t : Tid) : (sem.restrict prompt).Driver t :=
  (w.server t).restrict meetsPrompt (prompt_of_meetsPrompt t)

def promptSent : State × Prog Op Reply (Except Err Unit) :=
  ((webOutside []).promptServer 0).drive 30 webStart webAttach

/-- The request has ended, and the receipt is due. -/
def promptDue : State := { promptSent.1 with flights := [], clock := retireDelay }

def promptRetired : State × Prog Op Reply (Except Err Unit) :=
  ((webOutside []).promptServer 1).drive 30 promptDue webSettle

theorem promptSent_clock : promptSent.1.clock ≤ retireDelay := by decide +kernel

theorem promptRetired_log :
    (promptRetired.1.store webService).log.map (fun o => (o.uid, o.relation.issued)) =
      [("web-uid", .none), ("web-uid", .fence webAttachFence), ("web-uid", .none)] := by decide +kernel

/-- The receipt of the prompt run is given up, and its request is not under way. -/
theorem given_up_not_under_way_attach :
    ∃ c : InSpaceKube.Config State Op Reply (Except Err Unit),
      Reachable (sem.restrict prompt) (Calls webConfig) Initial c ∧ ∃ newest issued rest,
        (c.shared.store webService).log = newest :: issued :: rest ∧ newest.relation.issued = .none ∧
        issued.relation.issued = .fence webAttachFence ∧
        (RelationSeen c.shared.served webService newest webAttachFence ∨
          NotUnderWay c.shared webToken) := by
  have h := ((webOutside []).promptServer 0).started (r := promptSent) (.init initial_webStart) rfl
    webAttach_calls rfl
  have hended : Env promptSent.1 { promptSent.1 with flights := [] } :=
    .quiet (.ended promptSent.1 [] (List.nil_subset _))
  have htick : Env { promptSent.1 with flights := [] } promptDue :=
    .quiet (.tick _ _ promptSent_clock fun f hf => by cases hf)
  obtain ⟨c, h, hs, -⟩ := (((webOutside []).promptServer 1).started (r := promptRetired)
    ((h.moved hended).moved htick) rfl (webSettle_calls 1) rfl).named
  have hlog := promptRetired_log
  rw [← hs] at hlog
  obtain ⟨newest, _, hnewest, hfirst, hversions⟩ := List.map_eq_cons_iff.1 hlog
  obtain ⟨issued, rest, rfl, hsecond, -⟩ := List.map_eq_cons_iff.1 hversions
  obtain ⟨huid, hnone⟩ := Prod.mk.inj hfirst
  obtain ⟨huid', hissued⟩ := Prod.mk.inj hsecond
  exact ⟨c, h, newest, issued, rest, hnewest, hnone, hissued, (given_up_not_under_way webConfig h).1
    webService [] newest issued rest webAttachFence hnewest (huid.trans huid'.symm) hissued hnone⟩

/-- The receipt is issued, and the authority of the request is read. -/
def slowIssued : State × Prog Op Reply (Except Err Unit) :=
  ((webOutside []).server 0).drive 13 webStart webAttach

/-- The reads have taken almost as long as the receipt may wait. -/
def slowState : State := { slowIssued.1 with clock := retireDelay - second }

/-- The request goes out. -/
def slowSent : State × Prog Op Reply (Except Err Unit) :=
  ((webOutside []).server 0).drive 1 slowState slowIssued.2

/-- A second later the receipt is due. -/
def slowDue : State := { slowSent.1 with clock := retireDelay }

/-- Another controller gives it up. -/
def slowRetired : State × Prog Op Reply (Except Err Unit) :=
  ((webOutside []).server 1).drive 30 slowDue webSettle

/-- The listings that were read all show the firewall unattached. -/
def unattachedListings (served : List (Tid × Event Op Reply)) : Bool :=
  served.all fun p => match p.2 with
    | ⟨.read (.listFirewalls _), .ok items⟩ =>
      items == [⟨webFirewall, "web", "", "", 1, [], some []⟩]
    | _ => true

theorem slowIssued_times : slowIssued.1.clock ≤ retireDelay - second ∧
    ∀ f ∈ slowIssued.1.flights, retireDelay - second ≤ f.sentAt + mutationTimeout := by decide +kernel

theorem slowSent_times : slowSent.1.clock ≤ retireDelay ∧
    ∀ f ∈ slowSent.1.flights, retireDelay ≤ f.sentAt + mutationTimeout := by decide +kernel

theorem slowRetired_facts :
    (slowRetired.1.store webService).log.map (fun o => (o.uid, o.relation.issued)) =
        [("web-uid", .none), ("web-uid", .fence webAttachFence), ("web-uid", .none)] ∧
      unattachedListings slowRetired.1.served = true ∧
      ∃ f ∈ slowRetired.1.flights, issueOf f.op = some webToken := by decide +kernel

/-- In such a run nobody has seen the relation. -/
theorem not_relationSeen {served : List (Tid × Event Op Reply)} {new : Object}
    (h : unattachedListings served = true) :
    ¬ RelationSeen served webService new webAttachFence := by
  rintro ⟨_, _, _, _, g, _, hasked, -, hp, hlast, hconv⟩
  obtain ⟨_, hmem⟩ := lastListing_mem hlast
  have hserved := mem_ownTrace.1 (hasked.subset hmem)
  have hitems := List.all_eq_true.1 h _ hserved
  obtain rfl := beq_iff_eq.1 hitems
  obtain rfl : g = webAttachFence :=
    Except.ok.inj (hp.symm.trans (by decide +kernel : parseFence (.fence webAttachFence) = .ok _))
  exact absurd hconv (by decide +kernel)

/-- The receipt of the slow run is given up by a controller that has not seen it
done, while its request is under way. -/
theorem retired_under_way :
    ∃ c : InSpaceKube.Config State Op Reply (Except Err Unit),
      Reachable sem (Calls webConfig) Initial c ∧ ∃ newest issued rest,
        (c.shared.store webService).log = newest :: issued :: rest ∧ newest.uid = issued.uid ∧
        issued.relation.issued = .fence webAttachFence ∧ newest.relation.issued = .none ∧
        ¬ (RelationSeen c.shared.served webService newest webAttachFence ∨
          NotUnderWay c.shared webAttachFence.issueID) := by
  have h := ((webOutside []).server 0).started (r := slowIssued) (.init initial_webStart) rfl
    webAttach_calls rfl
  have hslow : Env slowIssued.1 slowState := .quiet (.tick _ _ slowIssued_times.1 slowIssued_times.2)
  have h := ((webOutside []).server 0).resumed (r := slowSent) (h.moved hslow) rfl rfl
  have hdue : Env slowSent.1 slowDue := .quiet (.tick _ _ slowSent_times.1 slowSent_times.2)
  obtain ⟨c, h, hs, -⟩ := (((webOutside []).server 1).started (r := slowRetired) (h.moved hdue) rfl
    (webSettle_calls 1) rfl).named
  obtain ⟨hlog, hlistings, hflight⟩ := slowRetired_facts
  rw [← hs] at hlog hlistings hflight
  obtain ⟨newest, _, hnewest, hfirst, hversions⟩ := List.map_eq_cons_iff.1 hlog
  obtain ⟨issued, rest, rfl, hsecond, -⟩ := List.map_eq_cons_iff.1 hversions
  obtain ⟨huid, hnone⟩ := Prod.mk.inj hfirst
  obtain ⟨huid', hissued⟩ := Prod.mk.inj hsecond
  refine ⟨c, h, newest, issued, rest, hnewest, huid.trans huid'.symm, hissued, hnone, ?_⟩
  rintro (hseen | hnot)
  · exact not_relationSeen hlistings hseen
  · obtain ⟨f, hf, hid⟩ := hflight
    exact hnot f hf hid

end Runs

end InSpaceKube.NodeLB.Receipts
