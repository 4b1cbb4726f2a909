import Karpenter.CloudProvider.OfferingGroups
import Karpenter.Scheduling.VolumeUsage
import Karpenter.Provisioning.SharedReservations
import Karpenter.Provisioning.Queue
import Karpenter.Provisioning.RelaxedMinimums
import Karpenter.DynamicResources.Reachability
import Karpenter.State.DisruptionCost
import Karpenter.Provisioning.PodAffinity
import Karpenter.Provisioning.SharedGroups
import Karpenter.Provisioning.DomainChoice
import Karpenter.Provisioning.DomainGroups
import Karpenter.Provisioning.DaemonCompatibility
import Karpenter.State.NodeLimit
import Karpenter.Static.Deprovisioning
import Karpenter.Disruption.Completion
import Karpenter.DynamicResources.DeviceAggregation
import Karpenter.Provisioning.DeviceRelease
import Karpenter.Provisioning.CustomLabels
import Karpenter.State.Indexes
import Karpenter.Overlay.Resolution
import Karpenter.Disruption.Balanced
import Karpenter.DeletionCost.Ranking
import Karpenter.State.NodePoolHealth
import Karpenter.State.Prediction
import Karpenter.State.CostRefresh
import Karpenter.Overlay.Apply
import Karpenter.DynamicResources.PoolNarrowing
import Karpenter.DynamicResources.PoolExhaustion
import Karpenter.Repair.RebootHistory
import Karpenter.Repair.RebootOnce
