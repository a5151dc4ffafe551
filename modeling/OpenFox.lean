import OpenFox.Agent.ActionLineage
import OpenFox.Agent.HardAbort
import OpenFox.Agent.SessionSlot
import OpenFox.Agent.SteeringInjection
import OpenFox.Agent.ToolExchange
import OpenFox.Authority.Conservation
import OpenFox.Authority.Installments
import OpenFox.Authority.Lineage
import OpenFox.Authority.Progress
import OpenFox.Authority.Reconcile
import OpenFox.Authority.Relay
import OpenFox.Authority.SignedHold
import OpenFox.Cron.Service
import OpenFox.Earning.Opportunity
import OpenFox.Earning.OutcomeRoundTrip
import OpenFox.Gift.SignedOffer
import OpenFox.Memory.InboundOnce
import OpenFox.Memory.Isolation
import OpenFox.Memory.Locks
import OpenFox.Memory.Torn
import OpenFox.Prediction.BookSearch
import OpenFox.Prediction.Custody
import OpenFox.Prediction.ExposureBound
import OpenFox.Prediction.OracleReload
import OpenFox.Prediction.PortfolioRisk
import OpenFox.Prediction.RelayBroadcast
