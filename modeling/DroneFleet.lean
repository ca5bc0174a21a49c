import DroneFleet.Feed
import DroneFleet.Course
import DroneFleet.Main
import DroneFleet.Proofs.Strides
import DroneFleet.Proofs.Consistency
import DroneFleet.Proofs.Executors
import DroneFleet.Proofs.Notices
import DroneFleet.Proofs.Supersession
import DroneFleet.Proofs.Recursion
import DroneFleet.Proofs.Timetable
import DroneFleet.Proofs.Endings
import DroneFleet.Proofs.LateRelease
import DroneFleet.Proofs.Headings
import DroneFleet.Proofs.Separation
import DroneFleet.Proofs.Whereabouts
import DroneFleet.Proofs.Atomicity
import DroneFleet.Proofs.Stops
import DroneFleet.Proofs.Outcomes
import DroneFleet.Proofs.Readers
import DroneFleet.Proofs.Bodies
import DroneFleet.Proofs.Requests
import DroneFleet.Proofs.Detours
import DroneFleet.Proofs.Deliveries
import DroneFleet.Proofs.Ring
import DroneFleet.Proofs.Subscriptions
import DroneFleet.Proofs.Feeds
import DroneFleet.Proofs.Roundtrip
import DroneFleet.Proofs.Spans
import DroneFleet.Proofs.Layouts
import DroneFleet.Proofs.Figures
import DroneFleet.Proofs.Records
import DroneFleet.Proofs.Turns
import DroneFleet.Proofs.Frames
import DroneFleet.Proofs.Entrances
import DroneFleet.Proofs.Scripts
import DroneFleet.Proofs.Geometry
import DroneFleet.Proofs.Astray
import DroneFleet.Proofs.Rounding
import DroneFleet.Proofs.Nearest
import DroneFleet.Proofs.Operands
import DroneFleet.Proofs.Rosters
import DroneFleet.Proofs.Layers
