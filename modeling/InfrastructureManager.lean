import InfrastructureManager.Time.Calendar
import InfrastructureManager.Time.Rfc3339
import InfrastructureManager.Time.Minutes
import InfrastructureManager.Controller.Objects
import InfrastructureManager.Controller.Client
import InfrastructureManager.Controller.GardenerCluster
import InfrastructureManager.Controller.Steps
import InfrastructureManager.Controller.Deletion
import InfrastructureManager.Controller.Paths
import InfrastructureManager.Controller.Labels
import InfrastructureManager.Controller.Uniqueness
import InfrastructureManager.Controller.Rotation
import InfrastructureManager.Controller.Convergence
import InfrastructureManager.Controller.AccessObjects
import InfrastructureManager.Controller.Timing
import InfrastructureManager.Controller.Commutation
import InfrastructureManager.Controller.Interleaving
import InfrastructureManager.Controller.Provisioning
import InfrastructureManager.Shoot.Json
import InfrastructureManager.Shoot.Auditlog
import InfrastructureManager.Runtime.CreateShoot
import InfrastructureManager.Migrator.Main
