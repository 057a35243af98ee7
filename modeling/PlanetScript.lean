import PlanetScript.Main
import PlanetScript.Proofs.Command.Inspecting
import PlanetScript.Proofs.Command.Printing
import PlanetScript.Proofs.Command.TextureData
import PlanetScript.Proofs.Json.Grammar
import PlanetScript.Proofs.Json.Layout
import PlanetScript.Proofs.Json.Reading
import PlanetScript.Proofs.Number.Grammar
import PlanetScript.Proofs.Number.Integer
import PlanetScript.Proofs.Number.Literal
import PlanetScript.Proofs.Number.Longest
import PlanetScript.Proofs.Number.Overflow
import PlanetScript.Proofs.Number.Rational
import PlanetScript.Proofs.Number.RoundTrip
import PlanetScript.Proofs.Number.Styles
import PlanetScript.Proofs.Scene.Commuting
import PlanetScript.Proofs.Scene.Draft
import PlanetScript.Proofs.Scene.Edited
import PlanetScript.Proofs.Scene.Meaning
import PlanetScript.Proofs.Scene.Order
import PlanetScript.Proofs.Scene.Snapshot
import PlanetScript.Proofs.Script.Addressing
import PlanetScript.Proofs.Script.Classifying
import PlanetScript.Proofs.Script.Edit
import PlanetScript.Proofs.Script.Forms
import PlanetScript.Proofs.Script.Naming
import PlanetScript.Proofs.Script.Place
import PlanetScript.Proofs.Script.Quoting
import PlanetScript.Proofs.Script.Segment
import PlanetScript.Proofs.Script.Statement
import PlanetScript.Proofs.Session.Accounting
import PlanetScript.Proofs.Session.ActiveBackground
import PlanetScript.Proofs.Session.Backdrop
import PlanetScript.Proofs.Session.Binding
import PlanetScript.Proofs.Session.Braces
import PlanetScript.Proofs.Session.Clicking
import PlanetScript.Proofs.Session.Coordinates
import PlanetScript.Proofs.Session.Flushing
import PlanetScript.Proofs.Session.Following
import PlanetScript.Proofs.Session.Layout
import PlanetScript.Proofs.Session.Missing
import PlanetScript.Proofs.Session.Moving
import PlanetScript.Proofs.Session.Placing
import PlanetScript.Proofs.Session.Pruning
import PlanetScript.Proofs.Session.Rereading
import PlanetScript.Proofs.Session.Retargeting
import PlanetScript.Proofs.Session.Sending
import PlanetScript.Proofs.Session.Showing
import PlanetScript.Proofs.Session.Storing
import PlanetScript.Proofs.Session.Styles
import PlanetScript.Proofs.Session.Validity
import PlanetScript.Proofs.Session.Wardrobe
import PlanetScript.Proofs.Settings.Choice
import PlanetScript.Proofs.Settings.Object
import PlanetScript.Proofs.Settings.Resolving
import PlanetScript.Proofs.Text.Encoding
import PlanetScript.Proofs.Text.Lines
import PlanetScript.Proofs.Text.Trimmed
import PlanetScript.Proofs.Texture.Dressing
import PlanetScript.Proofs.Texture.Landing
import PlanetScript.Session.Operation
