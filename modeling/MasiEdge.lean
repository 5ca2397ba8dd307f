import MasiEdge.Window.Conservation
import MasiEdge.Delivery.Order
import MasiEdge.Delivery.NoLoss
import MasiEdge.Delivery.Poison
import MasiEdge.Supervisor.Ledger
import MasiEdge.Supervisor.Endpoints
import MasiEdge.Control.Dispatchable
import MasiEdge.Model.Advance
import MasiEdge.Model.Incarnations
import MasiEdge.Plugin.Lifecycle
import MasiEdge.Api.Idempotency
import MasiEdge.Analysis.Grounding
import MasiEdge.Actor.Retention
import MasiEdge.Source.Readback
import MasiEdge.Delivery.Copies
