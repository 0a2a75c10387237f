import ShipEmissions.Main
import ShipEmissions.Vessel.Document
import ShipEmissions.Proofs.Rule
import ShipEmissions.Proofs.Vessel
import ShipEmissions.Proofs.Guess.Checks
import ShipEmissions.Proofs.Guess.Gather
import ShipEmissions.Proofs.Guess.Passes
import ShipEmissions.Proofs.Guess.Tier
import ShipEmissions.Proofs.Guess.Sizes
import ShipEmissions.Proofs.Guess.Coverage
import ShipEmissions.Proofs.Document
import ShipEmissions.Proofs.ConfigErrors
import ShipEmissions.Proofs.Exact
import ShipEmissions.Proofs.Pollutants
import ShipEmissions.Proofs.Emission.Powers
import ShipEmissions.Proofs.Emission.Totals
import ShipEmissions.Proofs.Emission.Splits
import ShipEmissions.Proofs.Track.Geometry
import ShipEmissions.Proofs.Track.Periods
import ShipEmissions.Proofs.Track.Runs
import ShipEmissions.Proofs.Track.Replaced
import ShipEmissions.Proofs.Track.Survivors
import ShipEmissions.Proofs.Guess.Priority
import ShipEmissions.Proofs.Guess.Provenance
import ShipEmissions.Proofs.Track.Questions
import ShipEmissions.Proofs.Alike
import ShipEmissions.Proofs.Track.Equality
import ShipEmissions.Proofs.Emission.Congruence
import ShipEmissions.Proofs.Rule.Language
import ShipEmissions.Proofs.Emission.Isolation
import ShipEmissions.Proofs.Track.Plot
import ShipEmissions.Proofs.Track.Streaming
import ShipEmissions.Proofs.Criterion
import ShipEmissions.Proofs.Registry
import ShipEmissions.Proofs.Guess.Context
import ShipEmissions.Proofs.Guess.Nulls
import ShipEmissions.Proofs.Guess.Failures
import ShipEmissions.Proofs.Emission.Factors
import ShipEmissions.Proofs.Track.Restriction
import ShipEmissions.Proofs.Track.Complete
import ShipEmissions.Proofs.Json.Objects
import ShipEmissions.Proofs.CommandLine
import ShipEmissions.Proofs.Guess.Closure
import ShipEmissions.Proofs.Emission.Hours
import ShipEmissions.Proofs.Emission.Bounds
import ShipEmissions.Proofs.Vessel.Attributes
import ShipEmissions.Proofs.Vessel.Document
import ShipEmissions.Proofs.Track.Bearings
import ShipEmissions.Proofs.Pollutants.Algebra
import ShipEmissions.Proofs.Criterion.Parts
import ShipEmissions.Proofs.Track.Filled
import ShipEmissions.Proofs.Window
import ShipEmissions.Proofs.Duration
import ShipEmissions.Proofs.Track.Tides
