import RollingIndex.Proofs.Runs

/-!
# Accepted configurations

What a configuration promises once it was accepted (`Config.validate_eq_ok_iff`), and what this
means for the deployment that is made of it (`Deployment.Accepted`).
-/

namespace RollingIndex

/-- A configuration is accepted if none of its faults is found. -/
theorem Config.validate_eq_ok_iff {config : Config} :
    config.validate = .ok () ↔
      config.indexer.indexPrefix ≠ "" ∧ config.indexer.recentIndexName ≠ "" ∧
        config.indexer.naming.indexNumber? config.indexer.recentIndexName = none ∧
        config.indexer.shards ≠ 0 ∧ checkStoreType config.indexer.recentStoreType = .ok () ∧
        config.retention.intervalSecs ≠ 0 ∧ config.port ≠ 0 := by
  rw [validate]
  repeat' split
  all_goals simp_all [Option.isSome_iff_ne_none]

/-- The deployment has a configuration that was accepted. -/
def Deployment.Accepted (d : Deployment) : Prop :=
  ∃ (config : Config) (mapping : Json) (audit : AuditSink),
    config.validate = .ok () ∧ d = .ofConfig config mapping audit

/-- Default settings are accepted under any names that are. -/
theorem Deployment.Accepted.named {stem recentIndex : String}
    (h : Config.validate { indexer := { indexPrefix := stem, recentIndexName := recentIndex } } =
      .ok ()) : (Deployment.named stem recentIndex).Accepted :=
  ⟨_, .null, .ledger, h, rfl⟩

variable {d : Deployment}

/-- The recent index of an accepted deployment is not one of its rotated indices. -/
theorem Deployment.Accepted.indexNumber?_recentIndex (h : d.Accepted) :
    d.naming.indexNumber? d.naming.recentIndex = none := by
  obtain ⟨config, mapping, audit, hvalid, rfl⟩ := h
  exact (Config.validate_eq_ok_iff.mp hvalid).2.2.1

/-- The store type that an accepted deployment asks for is offered. -/
theorem Deployment.Accepted.checkStoreType_eq (h : d.Accepted) :
    checkStoreType d.recentStoreType = .ok () := by
  obtain ⟨config, mapping, audit, hvalid, rfl⟩ := h
  exact (Config.validate_eq_ok_iff.mp hvalid).2.2.2.2.1

end RollingIndex
