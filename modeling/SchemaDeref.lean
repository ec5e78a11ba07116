import SchemaDeref.Main
import SchemaDeref.Files.Tree
import SchemaDeref.Schema.Text
import SchemaDeref.Settings.Json
import SchemaDeref.Proofs.Renaming
import SchemaDeref.Proofs.Catalog
import SchemaDeref.Proofs.Nodes
import SchemaDeref.Proofs.Layout
import SchemaDeref.Proofs.Anchors
import SchemaDeref.Proofs.Bases
import SchemaDeref.Proofs.Views
import SchemaDeref.Proofs.Routes
import SchemaDeref.Proofs.Destinations
import SchemaDeref.Proofs.Walk
import SchemaDeref.Proofs.Calls
import SchemaDeref.Proofs.Growth
import SchemaDeref.Proofs.Policies
import SchemaDeref.Proofs.Survivors
import SchemaDeref.Proofs.Objects
import SchemaDeref.Proofs.Pointers
import SchemaDeref.Proofs.Places
import SchemaDeref.Proofs.Evaluation
import SchemaDeref.Proofs.Spellings
import SchemaDeref.Proofs.Circles
import SchemaDeref.Proofs.Local
import SchemaDeref.Proofs.Inlining
import SchemaDeref.Proofs.Stands
import SchemaDeref.Proofs.Preflight
import SchemaDeref.Proofs.Agreement
import SchemaDeref.Proofs.Reuse
import SchemaDeref.Proofs.Ways
import SchemaDeref.Proofs.Lookups
import SchemaDeref.Proofs.Homes
import SchemaDeref.Proofs.Requests
import SchemaDeref.Proofs.Resources
import SchemaDeref.Proofs.History
import SchemaDeref.Proofs.Refilling
import SchemaDeref.Proofs.Images
import SchemaDeref.Proofs.FixedPoints
import SchemaDeref.Proofs.Stored
import SchemaDeref.Proofs.Remains
import SchemaDeref.Proofs.Frames
import SchemaDeref.Proofs.Edges
import SchemaDeref.Proofs.Identities
import SchemaDeref.Proofs.Names
import SchemaDeref.Proofs.Replay
import SchemaDeref.Proofs.Limits
import SchemaDeref.Proofs.Registered
import SchemaDeref.Proofs.Tasks
import SchemaDeref.Proofs.Expansions
import SchemaDeref.Proofs.Depth
import SchemaDeref.Proofs.Searches
import SchemaDeref.Proofs.Repeats
import SchemaDeref.Proofs.Keys
import SchemaDeref.Proofs.Folders
import SchemaDeref.Proofs.Listing
import SchemaDeref.Proofs.Layers
import SchemaDeref.Proofs.Correspondences
import SchemaDeref.Proofs.Unrelated
import SchemaDeref.Proofs.Escapes
import SchemaDeref.Proofs.Scopes
import SchemaDeref.Proofs.Sites
