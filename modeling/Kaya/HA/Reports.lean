import Kaya.HA.SystemSteps

/-!
# Who writes the reports of a node

Most columns of a node are what its agent last said. A heartbeat writes them all at once; besides it
only two things touch them. The ownership reconciliation and the adoption of an automatic failover
write `vip_owned` on behalf of an agent — the one column of a report that somebody else writes — and
the results of the agent's own actions write the columns of those actions.

`HANode.report` is what is left: the columns that nothing but a heartbeat writes, and `vip_owned`.
`HANode.heard` drops `vip_owned` as well. `step_heard` and `step_report` are the frame conditions,
for every unit of work that is not a heartbeat of the node and not an outright change of its row.

What the agent itself last said is read off the history (`lastHeartbeat`), not off the row.
-/

namespace Kaya.HA

/-- A node row without the columns that the engines and the results of actions write. -/
def HANode.report (node : HANode) : HANode :=
  { node.reports with
    leaseGeneration := 0, configGeneration := 0, keepalivedConfigChecksum := none
    resolverRepairStatus := none }

/-- The same, without `vip_owned`. -/
def HANode.heard (node : HANode) : HANode := { node.report with vipOwned := false }

/-- The units of work that write the row of a node as a whole. -/
def Action.Rewrites (n : NodeId) : Action → Prop
  | .observe k _ => k = n
  | .heartbeat k _ => k = n
  | _ => False

/-- The units of work that write `vip_owned` on behalf of an agent. -/
def Action.Attributes : Action → Prop
  | .reconcileVipOwnership _ => True
  | .ingestEvent _ _ => True
  | _ => False

/-- The last accepted heartbeat of a node, with the time it arrived. Histories are newest first. -/
def lastHeartbeat (n : NodeId) : List (Sys × Event) → Option (DateTime × HAAgentHeartbeat)
  | [] => none
  | (s, e) :: h =>
    match e.action with
    | .heartbeat k hb =>
      if k = n ∧ heartbeatAccepted (s.cluster.node n) hb e.now then some (e.now, hb)
      else lastHeartbeat n h
    | _ => lastHeartbeat n h

section Rows

variable {c c' : HACluster} {n k : NodeId} {now : DateTime} {f : HANode → HANode}

theorem node_of_mapNodes {f : NodeId → HANode → HANode} :
    (c.mapNodes f).node n = if n ∈ c.nodes.ids then f n (c.node n) else c.node n :=
  Table.mapRows_row _ _ _

theorem node_of_modifyNode : (c.modifyNode k f).node n = if n = k then f (c.node n) else c.node n :=
  Table.modify_row _ _ _ _

/-- The engines leave the reports of every node. -/
theorem report_of_reports (h : c'.nodes.map HANode.reports = c.nodes.map HANode.reports) :
    (c'.node n).report = (c.node n).report := by
  have hrow := congrArg (fun t : Table HANode ↦ t.row n) h
  simp only [Table.map_row] at hrow
  rw [HANode.report, HANode.report, hrow]

theorem report_of_failoverFrame (h : failoverFrame c' = failoverFrame c) :
    (c'.node n).report = (c.node n).report := by
  have hnodes := congrArg HACluster.nodes h
  exact report_of_reports hnodes

theorem report_of_maintenanceFrame (h : maintenanceFrame c' = maintenanceFrame c) :
    (c'.node n).report = (c.node n).report := by
  have hnodes := congrArg HACluster.nodes h
  exact report_of_reports hnodes

theorem report_of_nodes (h : c'.nodes = c.nodes) : (c'.node n).report = (c.node n).report := by
  rw [HACluster.node, h]

theorem heard_of_ownershipFrame (h : ownershipFrame c' = ownershipFrame c) :
    (c'.node n).heard = (c.node n).heard := by
  have hnodes := congrArg HACluster.nodes h
  have hrow := congrArg (fun t : Table HANode ↦ (t.row n).heard) hnodes
  exact hrow

theorem heard_of_report (h : (c'.node n).report = (c.node n).report) :
    (c'.node n).heard = (c.node n).heard := by
  rw [HANode.heard, HANode.heard, h]

theorem vipOwned_of_report (h : (c'.node n).report = (c.node n).report) :
    (c'.node n).vipOwned = (c.node n).vipOwned := by
  have howned := congrArg HANode.vipOwned h
  exact howned

theorem lastHeartbeatAt_of_heard (h : (c'.node n).heard = (c.node n).heard) :
    (c'.node n).lastHeartbeatAt = (c.node n).lastHeartbeatAt := by
  have hheard := congrArg HANode.lastHeartbeatAt h
  exact hheard

/-- Rewriting the columns of an action's result. -/
theorem report_of_modifyNode (hf : ∀ node, (f node).report = node.report) :
    ((c.modifyNode k f).node n).report = (c.node n).report := by
  rw [node_of_modifyNode]
  split
  · exact hf _
  · rfl

theorem applyKeepalivedResult_report (k : NodeId) (result : HAAgentActionResult) :
    ((applyKeepalivedResult c k result).node n).report = (c.node n).report := by
  unfold applyKeepalivedResult
  split
  · exact report_of_modifyNode fun _ ↦ rfl
  · have happ : ((c.modifyNode k fun node ↦
        { node with
          keepalivedStatus := .deployed, keepalivedConfigChecksum := result.checksum
          keepalivedLastError := none, configGeneration := result.generation }).node n).report =
        (c.node n).report := report_of_modifyNode fun _ ↦ rfl
    dsimp only
    split
    · exact happ
    · exact happ

theorem recordLeaseStageResult_report {generation : ℕ} {checksum : Option Digest}
    {status : ResultStatus} {message : String}
    (h : recordLeaseStageResult c k generation checksum status message = .ok c') :
    (c'.node n).report = (c.node n).report := by
  obtain ⟨state, snapshots, rfl | rfl⟩ := recordLeaseStageResult_writes h
  · show ((c.modifyNode k fun node ↦ { node with leaseGeneration := generation }).node n).report = _
    exact report_of_modifyNode fun _ ↦ rfl
  · rfl

theorem applyActionResult_report {result : HAAgentActionResult}
    (h : applyActionResult c k result now = .ok c') : (c'.node n).report = (c.node n).report := by
  unfold applyActionResult at h
  split at h
  · cases h
    exact report_of_modifyNode fun _ ↦ rfl
  · exact recordLeaseStageResult_report h
  · cases h
    exact applyKeepalivedResult_report k result
  · split at h
    · obtain ⟨m, -, heffect⟩ := recordMaintenanceActionResult_effect h
      exact report_of_maintenanceFrame heffect.frame
    · obtain ⟨r, -, hmoves⟩ := recordFailoverActionResult_moves h
      exact report_of_failoverFrame hmoves.frame

theorem persistLeasePlan_report (plan : Except String LeasePlan) :
    ((persistLeasePlan c now plan).1.node n).report = (c.node n).report :=
  report_of_maintenanceFrame (maintenanceFrame_persist c now plan)

theorem startControlledFailover_report (target : NodeId) (confirmation : String)
    (acknowledged : Bool) (failback : Except String Unit) (answer : LeaseAnswer) :
    ((startControlledFailover c target confirmation acknowledged failback answer now).1.node
      n).report = (c.node n).report := by
  rcases startControlledFailover_cases c now target confirmation acknowledged failback
    answer with hsame | ⟨-, -, hcapt⟩ | ⟨source, -, -, -, -, hcreated⟩
  · rw [hsame]
  · rw [hcapt]
    exact persistLeasePlan_report _
  · rw [hcreated, report_of_failoverFrame (createFailoverRun_frame _ _ _ _ _)]
    unfold captured
    split
    · exact persistLeasePlan_report _
    · rfl

theorem startDhcpSelfHeal_nodes (forceRetry : Bool) :
    (startDhcpSelfHeal c forceRetry now).nodes = c.nodes := by
  obtain ⟨runs, mode, hwrit⟩ := @startDhcpSelfHeal_writes c now forceRetry
  rw [hwrit]

theorem startReconciliation_nodes (h : startReconciliation c now = .ok c') :
    c'.nodes = c.nodes := by
  obtain ⟨-, -, rfl⟩ := startReconciliation_eq_ok h
  rfl

theorem startReinitialisation_nodes {desiredActive authority : NodeId} {acknowledged : Bool}
    (h : startReinitialisation c desiredActive authority acknowledged now = .ok c') :
    c'.nodes = c.nodes := by
  obtain ⟨-, -, -, rfl⟩ := startReinitialisation_eq_ok h
  rfl

end Rows

/-- **The frame of a report.** Apart from heartbeats of the node and from the two writers of
`vip_owned`, no unit of work touches the report of a node. -/
theorem step_report {s : Sys} {e : Event} {n : NodeId} (hrewrites : ¬ e.action.Rewrites n)
    (hattributes : ¬ e.action.Attributes) :
    ((step s e).cluster.node n).report = (s.cluster.node n).report := by
  obtain ⟨now, a⟩ := e
  rw [step_cluster]
  cases a with
  | observe k node =>
    show ((s.cluster.modifyNode k fun _ ↦ node).node n).report = _
    rw [node_of_modifyNode, if_neg fun h ↦ hrewrites h.symm]
  | heartbeat k hb =>
    dsimp only [clusterStep]
    split
    · show ((s.cluster.modifyNode k (applyHeartbeat s.cluster hb now)).node n).report = _
      rw [node_of_modifyNode, if_neg fun h ↦ hrewrites h.symm]
    · rfl
  | reconcileVipOwnership reporting => exact absurd trivial hattributes
  | ingestEvent k event => exact absurd trivial hattributes
  | evaluateRecovery => exact report_of_maintenanceFrame (evaluateRecovery_maintenance _).1
  | actionResult k result =>
    dsimp only [clusterStep]
    split
    · rfl
    rcases commitActionResult_cases s.cluster k result now with hsame | hacc
    · rw [hsame]
    · obtain ⟨c₁, happly, hstore⟩ := hacc.applied
      rw [hstore]
      show (c₁.node n).report = _
      exact applyActionResult_report happly
  | startControlledFailover => exact startControlledFailover_report _ _ _ _ _
  | advanceFailover => exact report_of_failoverFrame (advanceFailover_frame _ _).1
  | requestFailoverRollback r acknowledged =>
    dsimp only [clusterStep]
    split
    · exact committed_of rfl fun c' hok ↦
        report_of_failoverFrame (requestFailoverRollback_moves hok).frame
    · rfl
  | startReconciliation =>
    rw [clusterStep]
    exact committed_of rfl fun c' hok ↦ report_of_nodes (startReconciliation_nodes hok)
  | startReinitialisation =>
    rw [clusterStep]
    exact committed_of rfl fun c' hok ↦ report_of_nodes (startReinitialisation_nodes hok)
  | reconcileClusterState m stalled =>
    dsimp only [clusterStep]
    split
    · exact report_of_maintenanceFrame reconcileClusterState_effect.frame
    · rfl
  | advanceReinitialisation m inputs =>
    dsimp only [clusterStep]
    split
    · exact report_of_maintenanceFrame advanceReinitialisation_effect.frame
    · rfl
  | startDhcpSelfHeal forceRetry => exact report_of_nodes (startDhcpSelfHeal_nodes forceRetry)
  | advanceDhcpSelfHeal m =>
    dsimp only [clusterStep]
    split
    · exact report_of_maintenanceFrame advanceDhcpSelfHeal_effect.frame
    · rfl
  | reconcileClusterLeases answer => exact persistLeasePlan_report _
  | persistLeaseInspection inputs answer =>
    dsimp only [clusterStep]
    split
    · exact persistLeasePlan_report _
    · rfl
  | _ => rfl

/-- **The frame of what was heard.** Only a heartbeat of the node changes what was heard of it. -/
theorem step_heard {s : Sys} {e : Event} {n : NodeId} (hrewrites : ¬ e.action.Rewrites n) :
    ((step s e).cluster.node n).heard = (s.cluster.node n).heard := by
  by_cases hattributes : e.action.Attributes
  · obtain ⟨now, a⟩ := e
    cases a with
    | reconcileVipOwnership reporting =>
      exact heard_of_ownershipFrame (reconcileVipOwnership_frame _ _ _)
    | ingestEvent k event => exact heard_of_ownershipFrame (ingestEvent_frame _ _ _ _)
    | _ => exact absurd hattributes not_false
  · exact heard_of_report (step_report hrewrites hattributes)

end Kaya.HA
