import VolumePricing.Notice.Trace
import VolumePricing.Product
import VolumePricing.Service.Handle
import VolumePricing.Service.Stream
import VolumePricing.Store.Outage
import VolumePricing.Store.Seed
import VolumePricing.Hub.Gates
import VolumePricing.Database.Schema
import VolumePricing.Database.Store
import VolumePricing.Launch.Basic
import VolumePricing.Main
import VolumePricing.Proofs.FirstMatch
import VolumePricing.Proofs.Tier.DefaultFlag
import VolumePricing.Proofs.Summary.Pricing
import VolumePricing.Proofs.Notice.Candidate
import VolumePricing.Proofs.Hub.Turns
import VolumePricing.Proofs.Hub.Announcements
import VolumePricing.Proofs.Service.ServerErrors
import VolumePricing.Proofs.Cart.Units
import VolumePricing.Proofs.Service.InMemory
import VolumePricing.Proofs.Service.Handling
import VolumePricing.Proofs.Service.Overflows
import VolumePricing.Proofs.Service.Endpoints
import VolumePricing.Proofs.Service.Priceable
import VolumePricing.Proofs.Notice.Rules
import VolumePricing.Proofs.Pricing.Ranking
import VolumePricing.Proofs.Pricing.Selection
import VolumePricing.Proofs.Pricing.Reach
import VolumePricing.Proofs.Summary.Views
import VolumePricing.Proofs.Summary.WholeCart
import VolumePricing.Proofs.Pricing.Columns
import VolumePricing.Proofs.Notice.Promises
import VolumePricing.Proofs.Hub.Listening
import VolumePricing.Proofs.Hub.Repeats
import VolumePricing.Proofs.Notice.Direction
import VolumePricing.Proofs.Hub.Recency
import VolumePricing.Proofs.Cart.Refinement
import VolumePricing.Proofs.Hub.ReadOrder
import VolumePricing.Proofs.Hub.ForgottenGates
import VolumePricing.Proofs.Tier.Validity
import VolumePricing.Proofs.Tier.UpdateOrder
import VolumePricing.Proofs.Service.TierUpdates
import VolumePricing.Proofs.Service.TierRules
import VolumePricing.Proofs.Service.Tokens
import VolumePricing.Proofs.Service.StaffRoutes
import VolumePricing.Proofs.Service.Authorization
import VolumePricing.Proofs.Summary.Unnumbered
import VolumePricing.Proofs.Service.Stocked
import VolumePricing.Proofs.Service.GuestPrices
import VolumePricing.Proofs.Service.CartRoutes
import VolumePricing.Proofs.Cart.Renumbering
import VolumePricing.Proofs.Hub.Streams
import VolumePricing.Proofs.Hub.Independence
import VolumePricing.Proofs.Service.Lockstep
import VolumePricing.Proofs.Service.Separation
import VolumePricing.Proofs.Service.FreshSummaries
import VolumePricing.Proofs.Service.ClientErrors
import VolumePricing.Proofs.Service.Recalculation
import VolumePricing.Proofs.Service.TierOutage
import VolumePricing.Proofs.Hub.Polling
import VolumePricing.Proofs.Service.Openings
import VolumePricing.Proofs.Service.Listeners
import VolumePricing.Proofs.StableSort
import VolumePricing.Proofs.Database.Exchanges
import VolumePricing.Proofs.Database.Transactions
import VolumePricing.Proofs.Database.Bindings
import VolumePricing.Proofs.Database.CartTalks
import VolumePricing.Proofs.Database.TierAgreement
import VolumePricing.Proofs.Database.TierListing
import VolumePricing.Proofs.Pricing.Amounts
import VolumePricing.Proofs.Service.NewTiers
import VolumePricing.Proofs.Service.TierOverlay
import VolumePricing.Proofs.Tier.Reordering
import VolumePricing.Proofs.Service.MissingUnits
import VolumePricing.Proofs.Json.Records
import VolumePricing.Proofs.Json.WireForms
import VolumePricing.Proofs.Text.Letters
import VolumePricing.Proofs.Decimal.Rounding
import VolumePricing.Proofs.Decimal.Spellings
import VolumePricing.Proofs.Json.Scanning
import VolumePricing.Proofs.Token.Reading
import VolumePricing.Proofs.Service.TokenLifetimes
import VolumePricing.Proofs.Service.CostQueries
