import EventFramework.Core.PumpRules

/-!
# What the pumps leave alone outside

The pumps reach the state outside the core through the payload callbacks and the handlers only.
What all of these leave alone is the same after a run.
-/

namespace EventFramework
set_option autoImplicit false

variable {P ω α : Type}

/-- The callbacks leave what `f` sees of the outside alone. -/
structure Callbacks.Keeps (f : ω → α) (cb : Callbacks P ω) : Prop where
  retain : ∀ fn ctx data size w, f (cb.retain fn ctx data size w).2 = f w
  release : ∀ fn ctx data size w, f (cb.release fn ctx data size w) = f w

def HandlerProg.Keeps (f : ω → α) : HandlerProg P ω → Prop
  | .ret _ => True
  | .deliver _ _ _ _ next => ∀ rc report, (next rc report).Keeps f
  | .outside act next => (∀ w, f (act w) = f w) ∧ ∀ w, (next w).Keeps f
  | .inspect next => ∀ registry, (next registry).Keeps f

structure Program.Keeps (f : ω → α) (prog : Program P ω) : Prop where
  callbacks : prog.callbacks.Keeps f
  handler : ∀ actor msg, (prog.handler actor msg).Keeps f

variable {f : ω → α} {cb : Callbacks P ω} {prog : Program P ω}

namespace Msg

theorem releasePayload_keeps (hcb : cb.Keeps f) (msg : Msg P) (w : ω) :
    f (msg.releasePayload cb w) = f w := by
  unfold releasePayload
  split
  · split
    · exact hcb.release ..
    · rfl
  · rfl

theorem dispose_keeps (hcb : cb.Keeps f) (msg : Msg P) (w : ω) : f (msg.dispose cb w).2.2 = f w := by
  unfold dispose
  split
  · rfl
  · split
    · rfl
    · exact releasePayload_keeps hcb msg w

theorem retain_keeps (hcb : cb.Keeps f) (msg : Msg P) (w : ω) : f (msg.retain cb w).2 = f w := by
  unfold retain
  split
  · rfl
  · cases eventMeta msg.eventId with
    | none => rfl
    | some info =>
      simp only
      split
      · rfl
      · cases info.payloadKind with
        | lease =>
          cases msg.external.retainFn with
          | none => rfl
          | some fn => exact hcb.retain ..
        | _ => rfl

end Msg

namespace Mailbox

theorem retainForQueue_keeps (hcb : cb.Keeps f) (msg : Msg P) (w : ω) :
    f (retainForQueue cb msg w).2 = f w := by
  unfold retainForQueue
  split
  · rfl
  · exact msg.retain_keeps hcb w

theorem disposeSlot_keeps (hcb : cb.Keeps f) (mb : Mailbox P) (index : Nat) (w : ω) :
    f (mb.disposeSlot cb index w).2.2 = f w := by
  unfold disposeSlot
  split
  · rfl
  · exact (mb.storage index).dispose_keeps hcb w

theorem appendAtTail_keeps (hcb : cb.Keeps f) (mb : Mailbox P) (msg : Msg P) (w : ω) :
    f (mb.appendAtTail cb msg w).2.2 = f w := by
  unfold appendAtTail
  simp only
  split
  · exact msg.dispose_keeps hcb w
  · rfl

theorem replaceSlot_keeps (hcb : cb.Keeps f) (mb : Mailbox P) (index : Nat) (msg : Msg P) (w : ω) :
    f (mb.replaceSlot cb index msg w).2.2 = f w := by
  have hretained : f (retainForQueue cb msg w).2 = f w := retainForQueue_keeps hcb msg w
  have hdisposed := (disposeSlot_keeps hcb mb index (retainForQueue cb msg w).2).trans hretained
  unfold replaceSlot
  simp only
  split
  · exact hretained
  · split
    · exact (msg.dispose_keeps hcb _).trans hdisposed
    · split
      · exact (msg.dispose_keeps hcb _).trans hdisposed
      · exact hdisposed

theorem pushFifo_keeps (hcb : cb.Keeps f) (mb : Mailbox P) (msg : Msg P) (w : ω) :
    f (mb.pushFifo cb msg w).2.2 = f w := by
  have hretained : f (retainForQueue cb msg w).2 = f w := retainForQueue_keeps hcb msg w
  unfold pushFifo
  simp only
  split
  · rfl
  · split
    · exact hretained
    · exact (appendAtTail_keeps hcb mb msg _).trans hretained

theorem pushMailbox1_keeps (hcb : cb.Keeps f) (mb : Mailbox P) (msg : Msg P) (w : ω) :
    f (mb.pushMailbox1 cb msg w).2.2 = f w := by
  have hretained : f (retainForQueue cb msg w).2 = f w := retainForQueue_keeps hcb msg w
  have hcleared : f (if mb.count ≠ 0 then (mb.disposeSlot cb 0 (retainForQueue cb msg w).2).2
      else (mb, (retainForQueue cb msg w).2)).2 = f w := by
    split
    · exact (disposeSlot_keeps hcb mb 0 _).trans hretained
    · exact hretained
  unfold pushMailbox1
  simp only
  split
  · exact hretained
  · generalize (if mb.count ≠ 0 then (mb.disposeSlot cb 0 (retainForQueue cb msg w).2).2
      else (mb, (retainForQueue cb msg w).2)) = cleared at hcleared
    split
    · exact (msg.dispose_keeps hcb cleared.2).trans hcleared
    · exact hcleared

theorem pushLossyRing_keeps (hcb : cb.Keeps f) (mb : Mailbox P) (msg : Msg P) (w : ω) :
    f (mb.pushLossyRing cb msg w).2.2 = f w := by
  have hretained : f (retainForQueue cb msg w).2 = f w := retainForQueue_keeps hcb msg w
  unfold pushLossyRing
  simp only
  split
  · exact hretained
  · refine (appendAtTail_keeps hcb _ msg _).trans ?_
    split
    · exact (disposeSlot_keeps hcb mb mb.head _).trans hretained
    · exact hretained

theorem pushCoalescedFlag_keeps (mb : Mailbox P) (msg : Msg P) (w : ω) :
    (mb.pushCoalescedFlag msg w).2.2 = w := by
  unfold pushCoalescedFlag
  simp only
  split
  · rfl
  · split
    · split <;> rfl
    · split <;> rfl

theorem push_keeps (hcb : cb.Keeps f) (mb : Mailbox P) (msg : Msg P) (w : ω) :
    f (mb.push cb msg w).2.2 = f w := by
  unfold push
  split
  · rfl
  · cases mb.kind with
    | fifo8 => exact pushFifo_keeps hcb mb msg w
    | fifo16 => exact pushFifo_keeps hcb mb msg w
    | mailbox1 => exact pushMailbox1_keeps hcb mb msg w
    | lossyRing8 => exact pushLossyRing_keeps hcb mb msg w
    | coalescedFlag => exact congrArg f (pushCoalescedFlag_keeps mb msg w)

theorem pushQos_keeps (hcb : cb.Keeps f) (mb : Mailbox P) (msg : Msg P) (qos : RouteQos) (w : ω) :
    f (mb.pushQos cb msg qos w).2.2.2 = f w := by
  have hreported : f (mb.pushReported cb msg w).2.2.2 = f w := push_keeps hcb mb msg w
  unfold pushQos
  split
  · rfl
  · split
    · unfold pushCoalesced
      cases mb.findEventSlot msg.eventId false with
      | some slot => rfl
      | none =>
        simp only
        split
        · rfl
        · exact hreported
    · split
      · unfold pushLatestOnly
        cases mb.findEventSlot msg.eventId true with
        | some slot =>
          simp only
          split
          · exact replaceSlot_keeps hcb mb slot msg w
          · exact replaceSlot_keeps hcb mb slot msg w
        | none =>
          simp only
          split
          · rfl
          · exact hreported
      · exact hreported

end Mailbox

/-- What `f` sees outside is the same. -/
def SameOutside (f : ω → α) (w w' : World P ω) : Prop := f w'.outside = f w.outside

namespace SameOutside

theorem deliver (hcb : cb.Keeps f) (w : World P ω) (target : ActorId) (msg : Msg P) (qos : RouteQos)
    (wantReport : Bool) : SameOutside f w (w.deliver cb target msg qos wantReport).2.2 := by
  unfold SameOutside World.deliver
  simp only
  split
  · rfl
  · rename_i runtime _
    have hpushed := (World.pushed_cases
      (World.mk (w.updateRegistryStats fun s =>
        { s with deliveryAttempted := s.deliveryAttempted + 1, lastTargetActor := target }).registry
        (runtime.mailbox.pushQos cb msg qos w.outside).2.2.2 w.history)
      { runtime with
        mailbox := (runtime.mailbox.pushQos cb msg qos w.outside).2.2.1
        stats := { runtime.stats with
          lastResult := (runtime.mailbox.pushQos cb msg qos w.outside).1 } }
      (runtime.mailbox.pushQos cb msg qos w.outside).1
      ((if wantReport then some (runtime.mailbox.pushQos cb msg qos w.outside).2.1 else none).any
        fun r => r.effect == .dropped)).1
    exact (congrArg f hpushed).trans (runtime.mailbox.pushQos_keeps hcb msg qos w.outside)

theorem exec (hcb : cb.Keeps f) {handler : HandlerProg P ω} :
    handler.Keeps f → ∀ w : World P ω, SameOutside f w (handler.exec cb w).2 := by
  induction handler with
  | ret rc => exact fun _ _ => rfl
  | deliver target msg qos wantReport next ih =>
    intro hkeeps w
    exact (ih _ _ (hkeeps _ _) _).trans (deliver hcb w target msg qos wantReport)
  | outside act next ih =>
    intro hkeeps w
    exact (ih _ (hkeeps.2 _) _).trans (hkeeps.1 w.outside)
  | inspect next ih =>
    intro hkeeps w
    exact ih _ (hkeeps _) w

theorem handle (hprog : prog.Keeps f) (actor : ActorId) (msg : Msg P) (w : World P ω) :
    SameOutside f w (EventFramework.handle prog actor msg w).2.2 := by
  have hrun := exec hprog.callbacks (hprog.handler actor msg) (w.note (.invoked actor msg))
  unfold EventFramework.handle
  generalize (prog.handler actor msg).exec prog.callbacks (w.note (.invoked actor msg)) = out at hrun
  exact (msg.dispose_keeps hprog.callbacks _).trans hrun

theorem updateStats (w : World P ω) (actor : ActorId) (g : ActorRuntimeStats → ActorRuntimeStats) :
    SameOutside f w (w.updateStats actor g) := by
  unfold SameOutside World.updateStats
  split <;> rfl

theorem processOne (hprog : prog.Keeps f) (actor : ActorId) (w : World P ω) :
    SameOutside f w (EventFramework.processOne prog actor w).2 := by
  rcases processOne_cases prog actor w with
    ⟨_, heq⟩ | ⟨runtime, _, ⟨_, _, heq⟩ | ⟨msg, mb, handled, disposed, w', _, _, _, hhandle, _, heq⟩⟩
  · rw [heq]
    rfl
  · rw [heq]
    exact updateStats w actor _
  · have hrun := handle hprog actor msg (w.setRuntime { runtime with mailbox := mb })
    rw [hhandle] at hrun
    rw [heq]
    exact (updateStats w' actor _).trans hrun

theorem pumpFrame (hprog : prog.Keeps f) :
    PumpFrame prog (fun _ => True) (SameOutside f (P := P)) where
  refl := fun _ => rfl
  trans := fun h h' => h'.trans h
  stats := fun w actor g _ => updateStats w actor g
  note := fun _ _ _ => rfl
  processOne := fun w actor => processOne hprog actor w

theorem systemRun (hprog : prog.Keeps f) (pump : SystemPump) (budget : Nat) (w : World P ω) :
    f (pump.run prog budget w).2.2.2.outside = f w.outside :=
  (pumpFrame hprog).systemRun (fun _ _ => trivial) pump budget w

end SameOutside

end EventFramework
